import LootScript.Drop.Shape

/-!
# The shape of a script

The JSON form of a script is checked as a whole before any of its texts is judged. The pools are
checked first, in their order, then the removals, and only then the two plain fields.
-/
namespace LootScript

/-- A script as it is written. -/
structure ScriptShape where
  type : Option String
  extend : Option String
  pools : List (String × DropShape)
  remove : List String

namespace ScriptShape

def readPools : List (String × Json) → Except Failure (List (String × DropShape))
  | [] => .ok []
  | (key, value) :: rest => do
    let shape ← DropShape.ofJson ("pools." ++ key) value
    return (key, shape) :: (← readPools rest)

/-- Checks the removals, which are counted from `index`. -/
def readRemovals (index : Nat) : List Json → Except Failure (List String)
  | [] => .ok []
  | .str text :: rest => (readRemovals (index + 1) rest).map (text :: ·)
  | _ :: _ => .error (.shape ("remove[" ++ toString index ++ "]") "expected string")

def ofJson : Json → Except Failure ScriptShape
  | .obj fields => do
    let pools ← FieldType.object.optional "script" "pools" fields
    let pools ← readPools (pools.getD [])
    let remove ← FieldType.list.optional "script" "remove" fields
    let remove ← readRemovals 0 (remove.getD [])
    let type ← FieldType.text.optional "script" "type" fields
    let extend ← FieldType.text.optional "script" "extend" fields
    return ⟨type, extend, pools, remove⟩
  | _ => .error (.shape "script" "expected object")

end ScriptShape

end LootScript
