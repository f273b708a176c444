import LootScript.Proofs.Field
import LootScript.Proofs.OrderedMap
import LootScript.Script.Basic
import Mathlib.Logic.Relation

/-!
# Restated scripts

A script can be written in many ways that say the same. Fields of other names than the known ones
may be there or not, a known field may be null or left out, and the fields may come in any order, in
the script as in every drop of it, however deep. Only the order of the pools counts. Each of these
changes leaves the outcome of reading as it is, be it a script or a failure, and so does any number
of them.
-/
namespace LootScript

namespace Json

/-- A change of the fields of an object that says nothing about the known ones. -/
inductive FieldsRestated (known : List String) :
    List (String × Json) → List (String × Json) → Prop
  /-- The fields are put in another order. No two fields of an object share a key. -/
  | reorder {fields fields' : List (String × Json)} (distinct : (fields.map Prod.fst).Nodup)
    (perm : fields.Perm fields') : FieldsRestated known fields fields'
  /-- A field is added that is not among the known ones. -/
  | unknown (before after : List (String × Json)) {key : String} (value : Json)
    (foreign : key ∉ known) :
    FieldsRestated known (before ++ after) (before ++ (key, value) :: after)
  /-- A field that is left out is written as null. -/
  | null (before after : List (String × Json)) {key : String}
    (absent : key ∉ (before ++ after).map Prod.fst) :
    FieldsRestated known (before ++ after) (before ++ (key, .null) :: after)

def dropKeys : List String := ["type", "unsafe", "name", "children", "functions", "conditions"]

def scriptKeys : List String := ["type", "extend", "pools", "remove"]

/-- A change in a drop, or in one that it holds at some depth. -/
inductive DropRestated : Json → Json → Prop
  | fields {fields fields' : List (String × Json)}
    (restated : FieldsRestated dropKeys fields fields') :
    DropRestated (.obj fields) (.obj fields')
  | child {item item' : Json} (before after : List (String × Json)) (items others : List Json)
    (restated : DropRestated item item') :
    DropRestated (.obj (before ++ ("children", .arr (items ++ item :: others)) :: after))
      (.obj (before ++ ("children", .arr (items ++ item' :: others)) :: after))

/-- A change in a script, or in the drop of one of its pools. -/
inductive ScriptRestated : Json → Json → Prop
  | fields {fields fields' : List (String × Json)}
    (restated : FieldsRestated scriptKeys fields fields') :
    ScriptRestated (.obj fields) (.obj fields')
  | pool {drop drop' : Json} (before after pools others : List (String × Json)) (key : String)
    (restated : DropRestated drop drop') :
    ScriptRestated (.obj (before ++ ("pools", .obj (pools ++ (key, drop) :: others)) :: after))
      (.obj (before ++ ("pools", .obj (pools ++ (key, drop') :: others)) :: after))

end Json

variable {location key : String} {fields fields' : List (String × Json)}

/-! ## What a field says -/

namespace Json

theorem FieldsRestated.present?_eq {known : List String}
    (restated : FieldsRestated known fields fields') (listed : key ∈ known) :
    (obj fields').present? key = (obj fields).present? key := by
  cases restated with
  | reorder distinct perm =>
    rw [present?_obj, present?_obj, OrderedMap.lookup_eq_of_perm distinct perm]
  | @unknown before after other value foreign =>
    apply present?_append_cons_of_ne
    rintro rfl
    exact foreign listed
  | @null before after other absent =>
    by_cases same : key = other
    · -- Where there was no field, there is one now, but null says as little.
      subst same
      have missing := (OrderedMap.lookup_eq_none_iff_keys _ key).mpr absent
      have missing' : before.lookup key = none := by
        rw [List.lookup_append, Option.or_eq_none_iff] at missing
        exact missing.1
      rw [present?_obj, present?_obj, missing, List.lookup_append, missing', List.lookup_cons_self]
      rfl
    · exact present?_append_cons_of_ne before after same .null

end Json

/-! ## Reading what fields say -/

theorem FieldType.optional_eq_present? {α : Type} (type : FieldType α) (location key : String)
    (fields : List (String × Json)) :
    type.optional location key fields = match (Json.obj fields).present? key with
      | none => .ok none
      | some value => match type.read? value with
        | some a => .ok (some a)
        | none => type.refuse location key := by
  rw [optional, Json.present?_obj]
  cases fields.lookup key with
  | none => rfl
  | some value => cases value <;> rfl

theorem FieldType.optional_congr {α : Type} (type : FieldType α)
    (same : (Json.obj fields').present? key = (Json.obj fields).present? key) :
    type.optional location key fields' = type.optional location key fields := by
  rw [optional_eq_present?, optional_eq_present?, same]

namespace DropShape

theorem readChildren_eq_present? (location : String) (fields : List (String × Json)) :
    readChildren location fields = match (Json.obj fields).present? "children" with
      | none => .ok none
      | some (.arr items) => (readItems (location ++ ".children") 0 items).map some
      | some _ => FieldType.list.refuse location "children" := by
  rw [readChildren_eq, Json.present?_obj]
  cases fields.lookup "children" with
  | none => rfl
  | some value => cases value <;> rfl

theorem ofJson_eq_present? (location : String) (fields : List (String × Json)) :
    ofJson location (.obj fields) = match (Json.obj fields).present? "type" with
      | some (.str type) => readChildren location fields >>= fun children =>
        withFields type children location fields
      | _ => .error (.shape (location ++ ".type") "required string") := by
  rw [ofJson, Json.present?_obj]
  cases fields.lookup "type" with
  | none => rfl
  | some value =>
    cases value with
    | str type => cases readChildren location fields <;> rfl
    | _ => rfl

/-! ## Drops -/

theorem ofJson_congr (children : readChildren location fields' = readChildren location fields)
    (others : ∀ key ∈ Json.dropKeys, key ≠ "children" →
      (Json.obj fields').present? key = (Json.obj fields).present? key) :
    ofJson location (.obj fields') = ofJson location (.obj fields) := by
  -- Of the children only the outcome has to be the same: they may be changed themselves.
  have plain (type : String) (children : Option (List DropShape)) :
      withFields type children location fields' = withFields type children location fields := by
    unfold withFields
    rw [FieldType.flag.optional_congr (others "unsafe" (by decide) (by decide)),
      FieldType.text.optional_congr (others "name" (by decide) (by decide)),
      FieldType.list.optional_congr (others "functions" (by decide) (by decide)),
      FieldType.list.optional_congr (others "conditions" (by decide) (by decide))]
  rw [ofJson_eq_present?, ofJson_eq_present?, others "type" (by decide) (by decide), children]
  simp only [plain]

theorem readItems_congr {item item' : Json}
    (same : ∀ location, ofJson location item' = ofJson location item) (items others : List Json)
    (location : String) (index : Nat) :
    readItems location index (items ++ item' :: others) =
      readItems location index (items ++ item :: others) := by
  induction items generalizing index with
  | nil => rw [List.nil_append, List.nil_append, readItems, readItems, same]
  | cons first rest ih => rw [List.cons_append, List.cons_append, readItems, readItems, ih]

theorem ofJson_of_restated {value other : Json} (restated : value.DropRestated other)
    (location : String) : ofJson location other = ofJson location value := by
  -- A drop and its children have different locations, so the induction is for all of them.
  induction restated generalizing location with
  | fields restated =>
    apply ofJson_congr
    · simp only [readChildren_eq_present?, restated.present?_eq (by decide : "children" ∈ _)]
    · intro key listed _
      exact restated.present?_eq listed
  | @child item item' before after items others restated ih =>
    apply ofJson_congr
    · -- The changed list is looked at only if no field before it has the same name.
      rw [readChildren_eq, readChildren_eq, List.lookup_append, List.lookup_append,
        List.lookup_cons_self, List.lookup_cons_self]
      cases before.lookup "children" with
      | none => simp only [Option.none_or, readItems_congr ih]
      | some value => rfl
    · intro key _ different
      rw [Json.present?_append_cons_of_ne _ _ different,
        Json.present?_append_cons_of_ne _ _ different]

end DropShape

/-! ## Scripts -/

namespace ScriptShape

/-- The pools of a script, out of the field that holds them. -/
def poolsOf (fields : List (String × Json)) : Except Failure (List (String × DropShape)) := do
  readPools ((← FieldType.object.optional "script" "pools" fields).getD [])

theorem ofJson_eq_poolsOf (fields : List (String × Json)) :
    ofJson (.obj fields) = do
      let pools ← poolsOf fields
      let remove ← FieldType.list.optional "script" "remove" fields
      let remove ← readRemovals 0 (remove.getD [])
      let type ← FieldType.text.optional "script" "type" fields
      let extend ← FieldType.text.optional "script" "extend" fields
      return ⟨type, extend, pools, remove⟩ := by
  simp only [ofJson, poolsOf, bind_assoc]

theorem ofJson_congr (pools : poolsOf fields' = poolsOf fields)
    (others : ∀ key ∈ Json.scriptKeys, key ≠ "pools" →
      (Json.obj fields').present? key = (Json.obj fields).present? key) :
    ofJson (.obj fields') = ofJson (.obj fields) := by
  rw [ofJson_eq_poolsOf, ofJson_eq_poolsOf, pools,
    FieldType.list.optional_congr (others "remove" (by decide) (by decide)),
    FieldType.text.optional_congr (others "type" (by decide) (by decide)),
    FieldType.text.optional_congr (others "extend" (by decide) (by decide))]

theorem readPools_congr {drop drop' : Json}
    (same : ∀ location, DropShape.ofJson location drop' = DropShape.ofJson location drop)
    (pools others : List (String × Json)) (key : String) :
    readPools (pools ++ (key, drop') :: others) = readPools (pools ++ (key, drop) :: others) := by
  induction pools with
  | nil => rw [List.nil_append, List.nil_append, readPools, readPools, same]
  | cons pool rest ih => rw [List.cons_append, List.cons_append, readPools, readPools, ih]

/-- One change leaves the shape of a script as it is, or what is wrong with it. -/
theorem ofJson_of_restated {value other : Json} (restated : value.ScriptRestated other) :
    ofJson other = ofJson value := by
  cases restated with
  | fields restated =>
    apply ofJson_congr
    · rw [poolsOf, poolsOf, FieldType.object.optional_congr (restated.present?_eq (by decide))]
    · intro key listed _
      exact restated.present?_eq listed
  | @pool drop drop' before after pools others key restated =>
    apply ofJson_congr
    · unfold poolsOf FieldType.optional
      rw [List.lookup_append, List.lookup_append, List.lookup_cons_self, List.lookup_cons_self]
      cases before.lookup "pools" with
      | none => exact readPools_congr (DropShape.ofJson_of_restated restated) pools others key
      | some value => rfl
    · intro key _ different
      rw [Json.present?_append_cons_of_ne _ _ different,
        Json.present?_append_cons_of_ne _ _ different]

end ScriptShape

namespace Script

/--
Changes that say nothing, made or taken back in any number and in any places of a script, leave the
outcome of reading it as it is: the same script, with its pools in the same order, or the same
failure.
-/
theorem ofJson_of_restatements {value other : Json}
    (restated : Relation.EqvGen Json.ScriptRestated value other) : ofJson other = ofJson value := by
  induction restated with
  | rel value other step => rw [ofJson, ofJson, ScriptShape.ofJson_of_restated step]
  | refl value => rfl
  | symm value other _ ih => exact ih.symm
  | trans value between other _ _ first second => exact second.trans first

/--
A child loses its null name, the group around it gets a comment, and the fields of the script change
places. What is wrong with the next child is found where it was found before.
-/
theorem ofJson_of_restatements_of_child :
    let script (pools : Json) : List (String × Json) := [("pools", pools), ("type", .bool true)]
    let group (comment name : List (String × Json)) : Json := .obj [("a", .obj (comment ++
      [("children", .arr [.obj (("type", .str "item") :: name), .null]), ("type", .str "group")]))]
    let value := Json.obj (script (group [] [("name", .null)]))
    let other := Json.obj (script (group [("comment", .str "")] [])).reverse
    Relation.EqvGen Json.ScriptRestated value other ∧
      ofJson value = .error (.shape "pools.a.children[1]" "expected object") ∧
      ofJson other = .error (.shape "pools.a.children[1]" "expected object") := by
  intro script group value other
  -- On the way there is a child without a name, which the null is added to.
  let nameless := Json.obj (script (group [] []))
  let commented := Json.obj (script (group [("comment", .str "")] []))
  have named : nameless.ScriptRestated value :=
    .pool [] [("type", .bool true)] [] [] "a"
      (.child [] [("type", .str "group")] [] [.null]
        (.fields (.null [("type", .str "item")] [] (by decide))))
  have comment : nameless.ScriptRestated commented :=
    .pool [] [("type", .bool true)] [] [] "a" (.fields (.unknown [] _ (.str "") (by decide)))
  have moved : commented.ScriptRestated other :=
    .fields (.reorder (by simp [script]) (List.reverse_perm _).symm)
  have restated : Relation.EqvGen Json.ScriptRestated value other :=
    .trans _ _ _ (.symm _ _ (.rel _ _ named)) (.trans _ _ _ (.rel _ _ comment) (.rel _ _ moved))
  have read : ofJson value = .error (.shape "pools.a.children[1]" "expected object") := by
    decide +kernel
  exact ⟨restated, read, (ofJson_of_restatements restated).trans read⟩

end Script

end LootScript
