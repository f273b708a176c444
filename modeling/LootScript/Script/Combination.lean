import LootScript.Script.Lineage

/-!
# Combining scripts

Several scripts are compiled and laid over one another in order, so that a later script wins. What
they remove is removed once, from the result. The first script that does not compile decides the
outcome, and its position is part of the failure.
-/
namespace LootScript

namespace Script

/-- A fault of a script's content is reported with the position of the script. -/
def atPosition (index : Nat) (failure : Failure) : Failure :=
  if failure.isScriptFault then .combination index failure else failure

/-- Compiles scripts that are counted from `index`. -/
def compileAll (source : Source) (index : Nat) : List Script → Except Failure (List Script)
  | [] => .ok []
  | script :: rest => match script.compile source with
    | .error failure => .error (atPosition index failure)
    | .ok compiled => (compileAll source (index + 1) rest).map (compiled :: ·)

/-- Compiled scripts laid over one another, before anything is removed. -/
def overlayAll (scripts : List Script) : Script := scripts.foldl overlay empty

def combine (scripts : List Script) (source : Source) : Except Failure Script :=
  (compileAll source 0 scripts).map fun compiled => (overlayAll compiled).applyRemovals

end Script

end LootScript
