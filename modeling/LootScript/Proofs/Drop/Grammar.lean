import LootScript.Proofs.Fault
import LootScript.Proofs.Field

/-!
# The written form of drops

Which JSON values are drops, by a grammar, and what is wrong with those that are not, by the list of
all their violations. The list goes on behind a violation, into the other fields and into children,
while reading stops at the first one. Reading reports the list, and the list is empty exactly for
the values of the grammar.
-/
namespace LootScript

namespace Json

/-- A field that is absent, null or of a given form. -/
def Optionally {α : Type} (form : α → Json) (key : String) (fields : List (String × Json)) : Prop :=
  ∀ value, fields.lookup key = some value → value = .null ∨ ∃ a, value = form a

/-- The JSON values that are drops. Fields of other names may hold anything. -/
inductive IsDrop : Json → Prop
  | intro {fields : List (String × Json)}
    (type : ∃ text, fields.lookup "type" = some (.str text))
    (children : Optionally .arr "children" fields)
    (each : ∀ items, fields.lookup "children" = some (.arr items) → ∀ item ∈ items, IsDrop item)
    (flag : Optionally .bool "unsafe" fields)
    (name : Optionally .str "name" fields)
    (functions : Optionally .arr "functions" fields)
    (conditions : Optionally .arr "conditions" fields) :
    IsDrop (.obj fields)

end Json

/-- A place where a value is not of the form of a script, and what is wrong there. -/
structure Violation where
  place : String
  problem : String
  deriving DecidableEq

namespace Violation

def failure (violation : Violation) : Failure := .shape violation.place violation.problem

theorem eq_error_iff {α : Type} {violations : List Violation} {check : Except Failure α}
    (reports : Reports (violations.map failure) check) {cause : Failure} :
    check = .error cause ↔ ∃ violation, violations.head? = some violation ∧
      cause = .shape violation.place violation.problem := by
  rw [reports.eq_error_iff, List.head?_map, Option.map_eq_some_iff]
  simp only [failure, eq_comm]

theorem exists_ok_iff {α : Type} {violations : List Violation} {check : Except Failure α}
    (reports : Reports (violations.map failure) check) :
    (∃ result, check = .ok result) ↔ violations = [] :=
  reports.exists_ok_iff.trans List.map_eq_nil_iff

end Violation

/-! ## Fields -/

namespace FieldType

variable {α : Type}

/-- A field that does not have its type. -/
def wrong (type : FieldType α) (location key : String) : Violation :=
  ⟨location ++ "." ++ key, "expected " ++ type.name⟩

/-- The violation of a field that has to be of a type, unless it is absent or null. -/
def violations (type : FieldType α) (location key : String) (fields : List (String × Json)) :
    List Violation :=
  match fields.lookup key with
  | none | some .null => []
  | some value =>
    if (type.read? value).isSome then [] else [type.wrong location key]

theorem reports_optional (type : FieldType α) (location key : String)
    (fields : List (String × Json)) :
    Reports ((type.violations location key fields).map Violation.failure)
      (type.optional location key fields) := by
  unfold violations optional
  cases fields.lookup key with
  | none => rfl
  | some value =>
    cases value with
    | null => rfl
    | _ =>
      dsimp only
      generalize type.read? _ = read
      cases read <;> rfl

/-- A type reads the values of one form, and nothing else. -/
def ReadsOnly (type : FieldType α) (form : α → Json) : Prop :=
  ∀ value a, type.read? value = some a ↔ value = form a

theorem text_readsOnly : text.ReadsOnly .str := by
  intro value a
  cases value <;> simp [text]

theorem flag_readsOnly : flag.ReadsOnly .bool := by
  intro value a
  cases value <;> simp [flag]

theorem list_readsOnly : list.ReadsOnly .arr := by
  intro value a
  cases value <;> simp [list]

theorem object_readsOnly : object.ReadsOnly .obj := by
  intro value a
  cases value <;> simp [object]

theorem violations_eq_nil_iff {type : FieldType α} {form : α → Json} (reads : type.ReadsOnly form)
    {location key : String} {fields : List (String × Json)} :
    type.violations location key fields = [] ↔ Json.Optionally form key fields := by
  unfold violations Json.Optionally
  split
  · next absent => simp [absent]
  · next null => simp [null]
  · next value present found =>
    have real : value ≠ .null := present
    have reading : (type.read? value).isSome = true ↔ ∃ a, value = form a := by
      rw [Option.isSome_iff_exists]
      exact exists_congr (reads value)
    rw [found, ite_eq_left_iff]
    simp [← reading, real, Option.isSome_iff_ne_none]

end FieldType

/-! ## Drops -/

namespace DropShape

mutual

/--
All violations of the form of a drop. Those of the children stand behind the type and before the
other fields.
-/
def violations (location : String) : Json → List Violation
  | .obj fields =>
    (match fields.lookup "type" with
      | some (.str _) => []
      | _ => [⟨location ++ ".type", "required string"⟩]) ++
    (childrenViolations location fields ++
    (FieldType.flag.violations location "unsafe" fields ++
    (FieldType.text.violations location "name" fields ++
    (FieldType.list.violations location "functions" fields ++
    FieldType.list.violations location "conditions" fields))))
  | _ => [⟨location, "expected object"⟩]

def childrenViolations (location : String) : List (String × Json) → List Violation
  | [] => []
  | (key, value) :: rest =>
    if key = "children" then
      match value with
      | .null => []
      | .arr items => itemViolations (location ++ ".children") 0 items
      | _ => [FieldType.list.wrong location "children"]
    else childrenViolations location rest

/-- The violations of the items of a list, which are counted from `index`. -/
def itemViolations (location : String) (index : Nat) : List Json → List Violation
  | [] => []
  | item :: rest =>
    violations (location ++ "[" ++ toString index ++ "]") item ++
      itemViolations location (index + 1) rest

end

theorem reports_withFields (type : String) (children : Option (List DropShape)) (location : String)
    (fields : List (String × Json)) :
    Reports ((FieldType.flag.violations location "unsafe" fields ++
        (FieldType.text.violations location "name" fields ++
        (FieldType.list.violations location "functions" fields ++
        FieldType.list.violations location "conditions" fields))).map Violation.failure)
      (withFields type children location fields) := by
  simp only [List.map_append]
  refine (FieldType.reports_optional _ _ _ _).bind fun flagged _ => ?_
  refine (FieldType.reports_optional _ _ _ _).bind fun name _ => ?_
  refine (FieldType.reports_optional _ _ _ _).bind fun functions _ => ?_
  exact (FieldType.reports_optional _ _ _ _).map _

mutual

theorem reports_ofJson (location : String) : (value : Json) →
    Reports ((violations location value).map Violation.failure) (ofJson location value)
  | .obj fields => by
    have held := reports_readChildren location fields
    rw [violations, ofJson]
    cases typed : fields.lookup "type" with
    | none => rfl
    | some value =>
      cases value with
      | str type =>
        rw [List.nil_append, List.map_append]
        -- The children are read with a match that does what a bind would do.
        have whole := held.bind fun children _ => reports_withFields type children location fields
        cases read : readChildren location fields <;> rwa [read] at whole
      | _ => rfl
  | .null | .bool _ | .int _ | .double _ | .str _ | .arr _ => rfl

theorem reports_readChildren (location : String) : (fields : List (String × Json)) →
    Reports ((childrenViolations location fields).map Violation.failure)
      (readChildren location fields)
  | [] => rfl
  | (key, value) :: rest => by
    unfold childrenViolations readChildren
    split
    · cases value with
      | arr items =>
        have whole := (reports_readItems (location ++ ".children") 0 items).map some
        dsimp only
        cases read : readItems (location ++ ".children") 0 items <;> rwa [read] at whole
      | _ => rfl
    · exact reports_readChildren location rest

theorem reports_readItems (location : String) (index : Nat) : (items : List Json) →
    Reports ((itemViolations location index items).map Violation.failure)
      (readItems location index items)
  | [] => rfl
  | item :: rest => by
    have first := reports_ofJson (location ++ "[" ++ toString index ++ "]") item
    have later := reports_readItems location (index + 1) rest
    rw [itemViolations, readItems, List.map_append]
    have whole := first.bind fun shape _ => later.map (shape :: ·)
    cases read : ofJson (location ++ "[" ++ toString index ++ "]") item with
    | error failure => rwa [read] at whole
    | ok shape =>
      rw [read] at whole
      cases others : readItems location (index + 1) rest <;> rwa [others] at whole

end

/-! ## Violations and the grammar -/

mutual

theorem violations_eq_nil_iff (location : String) : (value : Json) →
    (violations location value = [] ↔ value.IsDrop)
  | .obj fields => by
    rw [violations]
    simp only [List.append_eq_nil_iff, childrenViolations_eq_nil_iff location fields,
      FieldType.violations_eq_nil_iff FieldType.flag_readsOnly,
      FieldType.violations_eq_nil_iff FieldType.text_readsOnly,
      FieldType.violations_eq_nil_iff FieldType.list_readsOnly]
    have typed : (match fields.lookup "type" with
        | some (.str _) => []
        | _ => [(⟨location ++ ".type", "required string"⟩ : Violation)]) = [] ↔
        ∃ text, fields.lookup "type" = some (.str text) := by
      split
      · next text found => simp [found]
      · next other =>
        simp only [List.cons_ne_nil, false_iff, not_exists]
        exact other
    rw [typed]
    constructor
    · rintro ⟨type, ⟨children, each⟩, flag, name, functions, conditions⟩
      exact .intro type children each flag name functions conditions
    · rintro ⟨type, children, each, flag, name, functions, conditions⟩
      exact ⟨type, ⟨children, each⟩, flag, name, functions, conditions⟩
  | .null | .bool _ | .int _ | .double _ | .str _ | .arr _ => by
    constructor
    · intro none
      cases none
    · intro isDrop
      cases isDrop

theorem childrenViolations_eq_nil_iff (location : String) : (fields : List (String × Json)) →
    (childrenViolations location fields = [] ↔ Json.Optionally .arr "children" fields ∧
      ∀ items, fields.lookup "children" = some (.arr items) → ∀ item ∈ items, item.IsDrop)
  | [] => by simp [childrenViolations, Json.Optionally]
  | (key, value) :: rest => by
    unfold childrenViolations Json.Optionally
    by_cases here : key = "children"
    · subst here
      rw [if_pos rfl, List.lookup_cons_self]
      cases value with
      | arr items => simp [itemViolations_eq_nil_iff _ 0 items]
      | _ => simp
    · have unequal : ("children" == key) = false := by simpa using fun same => here same.symm
      rw [if_neg here, List.lookup_cons, unequal]
      exact childrenViolations_eq_nil_iff location rest

theorem itemViolations_eq_nil_iff (location : String) (index : Nat) : (items : List Json) →
    (itemViolations location index items = [] ↔ ∀ item ∈ items, item.IsDrop)
  | [] => by simp [itemViolations]
  | item :: rest => by
    rw [itemViolations, List.append_eq_nil_iff, violations_eq_nil_iff _ item,
      itemViolations_eq_nil_iff location (index + 1) rest, List.forall_mem_cons]

end

end DropShape

end LootScript
