import LootScript.Proofs.Drop.Grammar
import LootScript.Script.Shape

/-!
# The written form of scripts

The grammar of scripts and the list of all violations of it, on top of the same for drops. A pool is
located by its key and a removal by its index. As for drops, reading reports the list, and the list
is empty exactly for the values of the grammar.
-/
namespace LootScript

/-- The JSON values that are scripts. The keys of the pools are any texts. -/
inductive Json.IsScript : Json → Prop
  | intro {fields : List (String × Json)}
    (pools : Optionally .obj "pools" fields)
    (drops : ∀ pools, fields.lookup "pools" = some (.obj pools) → ∀ pool ∈ pools, pool.2.IsDrop)
    (remove : Optionally .arr "remove" fields)
    (texts : ∀ items, fields.lookup "remove" = some (.arr items) →
      ∀ item ∈ items, ∃ text, item = .str text)
    (type : Optionally .str "type" fields)
    (extend : Optionally .str "extend" fields) :
    IsScript (.obj fields)

/-! ## Fields with entries -/

namespace FieldType

variable {α : Type} {type : FieldType (List α)} {key : String} {fields : List (String × Json)}

/-- The entries of a field that holds a list or an object, and none if it holds neither. -/
def entries (type : FieldType (List α)) (key : String) (fields : List (String × Json)) : List α :=
  ((fields.lookup key).bind type.read?).getD []

theorem getD_of_optional (null : type.read? .null = none) {location : String}
    {found : Option (List α)} (read : type.optional location key fields = .ok found) :
    found.getD [] = type.entries key fields := by
  unfold optional at read
  unfold entries
  split at read
  · next absent =>
    cases read
    rw [absent]
    rfl
  · next absent =>
    cases read
    rw [absent, Option.bind_some, null]
  · next value _ present =>
    rw [present, Option.bind_some]
    split at read
    · next items held =>
      cases read
      rw [held]
    · cases read

theorem forall_mem_entries {form : List α → Json} (reads : type.ReadsOnly form) {p : α → Prop} :
    (∀ entry ∈ type.entries key fields, p entry) ↔
      ∀ items, fields.lookup key = some (form items) → ∀ entry ∈ items, p entry := by
  unfold entries
  cases fields.lookup key with
  | none => simp
  | some value =>
    rw [Option.bind_some]
    simp only [Option.some.injEq, ← reads value]
    cases type.read? value <;> simp

end FieldType

namespace ScriptShape

/-! ## Violations -/

def poolViolations (pools : List (String × Json)) : List Violation :=
  pools.flatMap fun pool => DropShape.violations ("pools." ++ pool.1) pool.2

/-- The violations of the items of a list of removals, which are counted from `index`. -/
def removalViolations (index : Nat) : List Json → List Violation
  | [] => []
  | .str _ :: rest => removalViolations (index + 1) rest
  | _ :: rest =>
    ⟨"remove[" ++ toString index ++ "]", "expected string"⟩ :: removalViolations (index + 1) rest

/--
All violations of the form of a script. Those of pools and removals stand behind the fields that
hold them and before the two plain fields.
-/
def violations : Json → List Violation
  | .obj fields =>
    FieldType.object.violations "script" "pools" fields ++
    (poolViolations (FieldType.object.entries "pools" fields) ++
    (FieldType.list.violations "script" "remove" fields ++
    (removalViolations 0 (FieldType.list.entries "remove" fields) ++
    (FieldType.text.violations "script" "type" fields ++
    FieldType.text.violations "script" "extend" fields))))
  | _ => [⟨"script", "expected object"⟩]

theorem reports_readPools (pools : List (String × Json)) :
    Reports ((poolViolations pools).map Violation.failure) (readPools pools) := by
  induction pools with
  | nil => rfl
  | cons pool rest ih =>
    rw [poolViolations, List.flatMap_cons, List.map_append]
    exact (DropShape.reports_ofJson _ pool.2).bind fun shape _ => ih.map _

theorem reports_readRemovals (index : Nat) (items : List Json) :
    Reports ((removalViolations index items).map Violation.failure) (readRemovals index items) := by
  induction items generalizing index with
  | nil => rfl
  | cons item rest ih =>
    cases item with
    | str text => exact (ih (index + 1)).map _
    | _ => rfl

theorem reports_ofJson (value : Json) :
    Reports ((violations value).map Violation.failure) (ofJson value) := by
  cases value with
  | obj fields =>
    rw [violations, ofJson]
    simp only [List.map_append]
    refine (FieldType.reports_optional _ _ _ _).bind fun pools held => ?_
    -- The entries in the list of violations are those that the field turned out to hold.
    rw [← FieldType.getD_of_optional rfl held]
    refine (reports_readPools _).bind fun pools _ => ?_
    refine (FieldType.reports_optional _ _ _ _).bind fun remove held => ?_
    rw [← FieldType.getD_of_optional rfl held]
    refine (reports_readRemovals 0 _).bind fun remove _ => ?_
    refine (FieldType.reports_optional _ _ _ _).bind fun type _ => ?_
    exact (FieldType.reports_optional _ _ _ _).map _
  | _ => rfl

/-! ## Violations and the grammar -/

theorem poolViolations_eq_nil_iff {pools : List (String × Json)} :
    poolViolations pools = [] ↔ ∀ pool ∈ pools, pool.2.IsDrop := by
  rw [poolViolations, List.flatMap_eq_nil_iff]
  exact forall₂_congr fun pool _ => DropShape.violations_eq_nil_iff _ pool.2

theorem removalViolations_eq_nil_iff {index : Nat} {items : List Json} :
    removalViolations index items = [] ↔ ∀ item ∈ items, ∃ text, item = .str text := by
  induction items generalizing index with
  | nil => simp [removalViolations]
  | cons item rest ih =>
    cases item with
    | str text => simp [removalViolations, ih]
    | _ => simp [removalViolations]

theorem violations_eq_nil_iff (value : Json) : violations value = [] ↔ value.IsScript := by
  cases value with
  | obj fields =>
    rw [violations]
    simp only [List.append_eq_nil_iff, poolViolations_eq_nil_iff, removalViolations_eq_nil_iff,
      FieldType.violations_eq_nil_iff FieldType.object_readsOnly,
      FieldType.violations_eq_nil_iff FieldType.list_readsOnly,
      FieldType.violations_eq_nil_iff FieldType.text_readsOnly,
      FieldType.forall_mem_entries FieldType.object_readsOnly,
      FieldType.forall_mem_entries FieldType.list_readsOnly]
    constructor
    · rintro ⟨pools, drops, remove, texts, type, extend⟩
      exact .intro pools drops remove texts type extend
    · rintro ⟨pools, drops, remove, texts, type, extend⟩
      exact ⟨pools, drops, remove, texts, type, extend⟩
  | _ =>
    constructor
    · intro none
      cases none
    · intro isScript
      cases isScript

/-! ## What is read and what is not -/

/--
Exactly the drops and the scripts of the grammars are read, a drop wherever it stands. Any other
value is refused for the first one of its violations.
-/
theorem ofJson_exact (value : Json) :
    (∀ location,
      ((∃ shape, DropShape.ofJson location value = .ok shape) ↔ value.IsDrop) ∧
      ∀ failure, DropShape.ofJson location value = .error failure ↔
        ∃ violation, (DropShape.violations location value).head? = some violation ∧
          failure = .shape violation.place violation.problem) ∧
    ((∃ shape, ofJson value = .ok shape) ↔ value.IsScript) ∧
    ∀ failure, ofJson value = .error failure ↔
      ∃ violation, (violations value).head? = some violation ∧
        failure = .shape violation.place violation.problem := by
  refine ⟨fun location => ⟨?_, fun failure => ?_⟩, ?_, fun failure => ?_⟩
  · rw [Violation.exists_ok_iff (DropShape.reports_ofJson location value),
      DropShape.violations_eq_nil_iff]
  · exact Violation.eq_error_iff (DropShape.reports_ofJson location value)
  · rw [Violation.exists_ok_iff (reports_ofJson value), violations_eq_nil_iff]
  · exact Violation.eq_error_iff (reports_ofJson value)

/-- A child without a type stands before the flag of the drop around it. -/
example :
    violations (.obj [("pools", .obj [("a", .obj [("unsafe", .str ""), ("type", .str "group"),
      ("children", .arr [.obj []])])])]) =
    [⟨"pools.a.children[0].type", "required string"⟩, ⟨"pools.a.unsafe", "expected bool"⟩] := by
  decide +kernel

end ScriptShape

end LootScript
