import LootScript.Drop.Shape

/-!
# Fields that may be left out

Written objects leave out the fields that say nothing. Looking a field up in such an object finds
what was written under its name, and reading an optional field gives it back. What a field says does
not depend on the fields of other names.
-/
namespace LootScript

namespace Json

variable {key other : String}

theorem present?_obj (key : String) (fields : List (String × Json)) :
    (obj fields).present? key = match fields.lookup key with
      | some .null | none => none
      | some other => some other :=
  rfl

/-- A field says nothing about those of other keys. -/
theorem field?_append_cons_of_ne (before after : List (String × Json)) (different : key ≠ other)
    (value : Json) :
    (obj (before ++ (other, value) :: after)).field? key = (obj (before ++ after)).field? key := by
  have unequal : (key == other) = false := by simpa using different
  rw [field?, field?, List.lookup_append, List.lookup_append, List.lookup_cons, unequal]

theorem present?_append_cons_of_ne (before after : List (String × Json)) (different : key ≠ other)
    (value : Json) :
    (obj (before ++ (other, value) :: after)).present? key =
      (obj (before ++ after)).present? key := by
  rw [present?, present?, field?_append_cons_of_ne before after different]

end Json

/-- A field that is written only if it has a value. -/
def fieldIf (key : String) (value : Option Json) : List (String × Json) :=
  (value.map fun value => (key, value)).toList

@[simp]
theorem lookup_fieldIf (key name : String) (value : Option Json) :
    (fieldIf key value).lookup name = if name = key then value else none := by
  cases value with
  | none => simp [fieldIf]
  | some value =>
    simp only [fieldIf, Option.map_some, Option.toList_some, List.lookup_cons, List.lookup_nil]
    by_cases same : name = key
    · simp [same]
    · have unequal : (name == key) = false := by simpa using same
      simp [same, unequal]

theorem keys_fieldIf (key : String) (value : Option Json) :
    ((fieldIf key value).map Prod.fst).Sublist [key] := by
  cases value with
  | none => exact List.nil_sublist _
  | some value => exact List.Sublist.refl _

/-- A list that is written unless it is empty. -/
def unlessEmpty {α : Type} : List α → Option (List α)
  | [] => none
  | items => some items

@[simp]
theorem getD_unlessEmpty {α : Type} (items : List α) : (unlessEmpty items).getD [] = items := by
  cases items <;> rfl

/-- What an optional field reads, for a way to write its values. -/
theorem FieldType.optional_of_lookup {α : Type} {type : FieldType α} (write : α → Json)
    (reads : ∀ a, type.read? (write a) = some a) (present : ∀ a, write a ≠ .null)
    {location key : String} {fields : List (String × Json)} {value : Option α}
    (found : fields.lookup key = value.map write) :
    type.optional location key fields = .ok value := by
  unfold FieldType.optional
  rw [found]
  cases value with
  | none => rfl
  | some a =>
    rw [Option.map_some]
    split
    · next null => cases null
    · next null => exact absurd (Option.some.inj null) (present a)
    · next other same =>
      rw [← Option.some.inj same, reads]

/-- The children are read from the field of their name. -/
theorem DropShape.readChildren_eq (location : String) (fields : List (String × Json)) :
    readChildren location fields = match fields.lookup "children" with
      | none | some .null => .ok none
      | some (.arr items) => (readItems (location ++ ".children") 0 items).map some
      | some _ => FieldType.list.refuse location "children" := by
  induction fields with
  | nil => rfl
  | cons field rest ih =>
    obtain ⟨key, value⟩ := field
    unfold readChildren
    by_cases same : key = "children"
    · subst same
      rw [if_pos rfl, List.lookup_cons_self]
      cases value with
      | arr items =>
        cases read : readItems (location ++ ".children") 0 items <;> simp [read, Except.map]
      | null => rfl
      | bool b => rfl
      | int n => rfl
      | double d => rfl
      | str text => rfl
      | obj fields => rfl
    · have unequal : ("children" == key) = false := by simpa using fun e => same e.symm
      rw [if_neg same, ih, List.lookup_cons, unequal]

end LootScript
