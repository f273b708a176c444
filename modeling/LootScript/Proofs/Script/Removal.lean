import LootScript.Proofs.Script.Overlay

/-!
# Removing once, in the end

Removals stay listed when they have been applied. So a script may absorb others and have its
removals applied at any time in between, as often as one likes: a pool that was deleted early and
came back with another script is deleted again in the end, and it does not matter at which place it
came back. What is left is the same as if the removals had been applied in the end only.
-/
namespace LootScript

namespace Script

variable {a b : Script}

/-! ## What removals leave -/

theorem entries_applyRemovals (script : Script) :
    script.applyRemovals.pools.entries =
      script.pools.entries.filter fun pool => pool.1 ∉ script.removals := by
  rw [applyRemovals_eq_keeping]
  rfl

/-- All that counts, once another script is absorbed, is what the removals would leave before. -/
theorem applyRemovals_absorb_congr (same : a.applyRemovals = b.applyRemovals) (other : Script) :
    (a.absorb other).applyRemovals = (b.absorb other).applyRemovals := by
  have listed : a.removals = b.removals := by simpa using congrArg removals same
  -- The longer list of removals covers the one from before on either side.
  have early (script : Script) (equal : script.removals = b.removals) :
      script.keeping (· ∉ b.removals ++ other.removals) =
        script.applyRemovals.keeping (· ∉ b.removals ++ other.removals) := by
    symm
    apply keeping_applyRemovals
    intro id member
    simp [← equal, member]
  calc (a.absorb other).applyRemovals
    _ = (a.absorb other).keeping (· ∉ b.removals ++ other.removals) := by
      rw [applyRemovals_eq_keeping, absorb, listed]
    _ = (b.absorb other).keeping (· ∉ b.removals ++ other.removals) := by
      rw [keeping_absorb, keeping_absorb, early a listed, same, ← early b rfl]
    _ = (b.absorb other).applyRemovals := (applyRemovals_eq_keeping _).symm

/-! ## Steps -/

/-- What is done to a script that collects others. -/
inductive Step
  | absorb (other : Script)
  | applyRemovals

def Step.run (script : Script) : Step → Script
  | .absorb other => script.absorb other
  | .applyRemovals => script.applyRemovals

def runSteps (script : Script) (steps : List Step) : Script := steps.foldl Step.run script

/-- The scripts that are absorbed, in their order. -/
def absorbed : List Step → List Script
  | [] => []
  | .absorb other :: rest => other :: absorbed rest
  | .applyRemovals :: rest => absorbed rest

theorem applyRemovals_runSteps (same : a.applyRemovals = b.applyRemovals) (steps : List Step) :
    (runSteps a steps).applyRemovals = ((absorbed steps).foldl absorb b).applyRemovals := by
  -- Each step keeps the two sides equal up to removals: absorbing does so on both of them, and
  -- removing changes only the one that takes all the steps.
  induction steps generalizing a b with
  | nil => exact same
  | cons step rest ih =>
    cases step with
    | absorb other => exact ih (applyRemovals_absorb_congr same other)
    | applyRemovals => exact ih ((applyRemovals_applyRemovals a).trans same)

/--
Steps that end with a removal come to the same as absorbing the same scripts and then removing once.
A removal keeps the pools that are not listed, in their order, and changes nothing else.
-/
theorem runSteps_removing_last (script : Script) (steps : List Step) :
    runSteps script (steps ++ [.applyRemovals]) =
      ((absorbed steps).foldl absorb script).applyRemovals ∧
    script.applyRemovals.pools.entries =
      script.pools.entries.filter (fun pool => pool.1 ∉ script.removals) ∧
    script.applyRemovals.removals = script.removals ∧
    script.applyRemovals.kind = script.kind ∧ script.applyRemovals.base = script.base := by
  refine ⟨?_, entries_applyRemovals script, rfl, rfl, rfl⟩
  rw [runSteps, List.foldl_append]
  exact applyRemovals_runSteps rfl steps

end Script

end LootScript
