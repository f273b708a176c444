import LootScript.Proofs.Failure

/-!
# First faults

A check stops at the first fault that it meets. What it looks for can be said without that: as the
list of all faults that its input has, in the order in which they count. A check reports such a list
if it passes when the list is empty and otherwise fails with the first fault in it. When one check
follows another, the lists are joined; the faults behind the first one are in the list as well,
though a check never gets to them.
-/
namespace LootScript

variable {α β : Type} {faults others : List Failure} {check : Except Failure α}

/-- A check passes if there is no fault, and otherwise fails with the first one. -/
def Reports (faults : List Failure) : Except Failure α → Prop
  | .ok _ => faults = []
  | .error failure => faults.head? = some failure

/-- The one fault that a check has, if it fails. -/
def faultOf : Except Failure α → List Failure
  | .ok _ => []
  | .error failure => [failure]

theorem reports_faultOf (check : Except Failure α) : Reports (faultOf check) check := by
  cases check <;> rfl

theorem mem_faultOf {failure : Failure} : failure ∈ faultOf check ↔ check = .error failure := by
  cases check <;> simp [faultOf, eq_comm]

namespace Reports

/-! ## What is reported -/

theorem eq_error_iff (reports : Reports faults check) {failure : Failure} :
    check = .error failure ↔ faults.head? = some failure := by
  cases check with
  | ok result =>
    have none : faults = [] := reports
    simp [none]
  | error first =>
    have some : faults.head? = some first := reports
    simp [some]

theorem exists_ok_iff (reports : Reports faults check) :
    (∃ result, check = .ok result) ↔ faults = [] := by
  cases check with
  | ok result =>
    have none : faults = [] := reports
    simp [none]
  | error first =>
    have some : faults.head? = some first := reports
    constructor
    · rintro ⟨_, passed⟩
      cases passed
    · rintro rfl
      cases some

/-- Of a list of faults, a check only tells which one is the first. -/
theorem iff_head?_eq (reports : Reports faults check) :
    Reports others check ↔ others.head? = faults.head? := by
  cases check with
  | ok result =>
    have none : faults = [] := reports
    rw [none, List.head?_nil, List.head?_eq_none_iff]
    rfl
  | error first =>
    have some : faults.head? = some first := reports
    rw [some]
    rfl

/-- Where the faults are those of several items, the first faulty item decides. -/
theorem flatMap_eq_error_iff {items : List β} {faults : β → List Failure}
    (reports : Reports (items.flatMap faults) check) {failure : Failure} :
    check = .error failure ↔ ∃ before item after, items = before ++ item :: after ∧
      (∀ earlier ∈ before, faults earlier = []) ∧ (faults item).head? = some failure := by
  rw [reports.eq_error_iff, List.head?_flatMap, List.findSome?_eq_some_iff]
  simp only [List.head?_eq_none_iff, and_comm]

/-! ## Checks that are made of others -/

theorem bind {next : α → Except Failure β} (first : Reports faults check)
    (after : ∀ result, check = .ok result → Reports others (next result)) :
    Reports (faults ++ others) (check >>= next) := by
  cases check with
  | error failure =>
    have some : faults.head? = some failure := first
    change (faults ++ others).head? = _
    -- The faults behind the first check do not count.
    rw [List.head?_append, some]
    rfl
  | ok result =>
    have none : faults = [] := first
    rw [none]
    exact after result rfl

theorem map (reports : Reports faults check) (change : α → β) :
    Reports faults (check.map change) := by
  cases check <;> exact reports

theorem mapM {each : α → Except Failure β} {faults : α → List Failure} {items : List α}
    (reports : ∀ item ∈ items, Reports (faults item) (each item)) :
    Reports (items.flatMap faults) (items.mapM each) := by
  induction items with
  | nil => rfl
  | cons item rest ih =>
    obtain ⟨first, later⟩ := List.forall_mem_cons.mp reports
    rw [List.mapM_cons, List.flatMap_cons]
    refine first.bind fun result _ => ?_
    exact (ih later).map _

end Reports

end LootScript
