import LootScript.Extension.Store
import LootScript.Script.File

/-!
# Assembling loot tables

The whole way from scripts, or from a script file, to a finished table, with a store of base
scripts and with a report of every step.
-/
namespace LootScript

namespace Script

def compileOver (files : FileTree) (store : Store) (script : Script) : Traced Script where
  events := store.lineageEvents files ((store.source files).lineage script)
  result := script.compile (store.source files)

def withoutRemoved (script : Script) : Traced Script where
  events := (removedPools script.pools script.removals).map .poolRemoved
  result := .ok script.applyRemovals

def compileAllOver (files : FileTree) (store : Store) (index : Nat) :
    List Script → Traced (List Script)
  | [] => return []
  | script :: rest => do
    let compiled ← (script.compileOver files store).mapFailure (atPosition index)
    return compiled :: (← compileAllOver files store (index + 1) rest)

def combineOver (files : FileTree) (store : Store) (scripts : List Script) : Traced Script := do
  let compiled ← compileAllOver files store 0 scripts
  let result ← (overlayAll compiled).withoutRemoved
  .report (.scriptsMerged scripts.length result.pools.size)
  return result

/-- Combines scripts, and says so to the user. -/
def assemble (files : FileTree) (store : Store) (scripts : List Script) : Traced Script := do
  let result ← combineOver files store scripts
  .report (.scriptsCombined scripts.length result.pools.size)
  return result

/-- The finished table of a single file. -/
def compileFile (files : FileTree) (store : Store) (path : Path) : Traced Script := do
  let script ← interpretFile files path
  let compiled ← script.compileOver files store
  compiled.withoutRemoved

theorem result_compileAllOver (files : FileTree) (store : Store) (index : Nat)
    (scripts : List Script) :
    (compileAllOver files store index scripts).result =
      compileAll (store.source files) index scripts := by
  induction scripts generalizing index with
  | nil => rfl
  | cons script rest ih =>
    simp only [compileAllOver, compileAll, Traced.result_bind, Traced.result_mapFailure,
      Traced.result_pure, ih, compileOver]
    cases script.compile (store.source files) with
    | error failure => rfl
    | ok compiled => cases compileAll (store.source files) (index + 1) rest <;> rfl

@[simp]
theorem result_combineOver (files : FileTree) (store : Store) (scripts : List Script) :
    (combineOver files store scripts).result = combine scripts (store.source files) := by
  simp only [combineOver, combine, Traced.result_bind, result_compileAllOver, Traced.result_pure,
    withoutRemoved, Traced.result_report]
  cases compileAll (store.source files) 0 scripts <;> rfl

@[simp]
theorem result_assemble (files : FileTree) (store : Store) (scripts : List Script) :
    (assemble files store scripts).result = combine scripts (store.source files) := by
  simp only [assemble, Traced.result_bind, result_combineOver, Traced.result_pure,
    Traced.result_report]
  cases combine scripts (store.source files) <;> rfl

end Script

end LootScript
