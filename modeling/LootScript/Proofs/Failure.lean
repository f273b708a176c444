import LootScript.Failure
import Mathlib.Data.List.Forall2

/-!
# Failures of steps

A computation made of steps fails with the failure of the first step that fails.
-/
namespace LootScript

variable {α β : Type} {step : Except Failure α} {failure : Failure}

theorem bind_eq_ok_iff {next : α → Except Failure β} {result : β} :
    (step >>= next) = .ok result ↔ ∃ value, step = .ok value ∧ next value = .ok result := by
  cases step with
  | error failure => simp [bind, Except.bind]
  | ok value => simp [bind, Except.bind]

theorem bind_eq_error_iff {next : α → Except Failure β} :
    (step >>= next) = .error failure ↔
      step = .error failure ∨ ∃ value, step = .ok value ∧ next value = .error failure := by
  cases step with
  | error failure => simp [bind, Except.bind]
  | ok value => simp [bind, Except.bind]

theorem map_eq_ok_iff {change : α → β} {result : β} :
    step.map change = .ok result ↔ ∃ value, step = .ok value ∧ change value = result := by
  cases step with
  | error failure => simp [Except.map]
  | ok value => simp [Except.map]

theorem map_eq_error_iff {change : α → β} :
    step.map change = .error failure ↔ step = .error failure := by
  cases step with
  | error failure => simp [Except.map]
  | ok value => simp [Except.map]

/-! ## One step for each item -/

section Each

variable {each : α → Except Failure β} {items : List α}

theorem mapM_eq_ok_iff {results : List β} :
    items.mapM each = .ok results ↔
      List.Forall₂ (fun item result => each item = .ok result) items results := by
  induction items generalizing results with
  | nil => simp [pure, Except.pure, eq_comm]
  | cons item rest ih =>
    simp only [List.mapM_cons, bind_eq_ok_iff, ih, List.forall₂_cons_left_iff]
    constructor
    · rintro ⟨result, done, others, further, rest⟩
      cases rest
      exact ⟨result, others, done, further, rfl⟩
    · rintro ⟨result, others, done, further, rfl⟩
      exact ⟨result, done, others, further, rfl⟩

theorem mapM_eq_error_iff :
    items.mapM each = .error failure ↔
      ∃ before item after results, items = before ++ item :: after ∧
        List.Forall₂ (fun item result => each item = .ok result) before results ∧
        each item = .error failure := by
  induction items with
  | nil => simp [pure, Except.pure]
  | cons first rest ih =>
    simp only [List.mapM_cons, bind_eq_error_iff, ih]
    constructor
    · rintro (failed | ⟨result, done, ⟨before, item, after, results, rfl, earlier, failed⟩ |
        ⟨others, _, wrapped⟩⟩)
      · exact ⟨[], first, rest, [], rfl, .nil, failed⟩
      · exact ⟨first :: before, item, after, result :: results, rfl, .cons done earlier, failed⟩
      · cases wrapped
    · rintro ⟨before, item, after, results, split, earlier, failed⟩
      -- Either the first item fails already, or it passes and the failure is among the rest.
      cases earlier with
      | nil =>
        cases split
        exact .inl failed
      | cons done earlier =>
        cases split
        exact .inr ⟨_, done, .inl ⟨_, item, after, _, rfl, earlier, failed⟩⟩

end Each

/-! ## How a computation ends -/

/-- A computation gives a result or fails, and either is as it should be. -/
def Ends (well : α → Prop) (badly : Failure → Prop) : Except Failure α → Prop
  | .ok result => well result
  | .error failure => badly failure

namespace Ends

variable {well : α → Prop} {well' : β → Prop} {badly : Failure → Prop}

theorem bind {next : α → Except Failure β} (first : Ends well badly step)
    (after : ∀ value, well value → Ends well' badly (next value)) :
    Ends well' badly (step >>= next) := by
  cases step with
  | error failure => exact first
  | ok value => exact after value first

theorem map {change : α → β} (ends : Ends well badly step)
    (kept : ∀ value, well value → well' (change value)) : Ends well' badly (step.map change) := by
  cases step with
  | error failure => exact ends
  | ok value => exact kept value ends

end Ends

end LootScript
