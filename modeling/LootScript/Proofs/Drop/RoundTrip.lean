import LootScript.Drop.Tree
import LootScript.Proofs.Field
import LootScript.Proofs.Identifier

/-!
# Reading drops that were written

Every drop is written in a shape of its own, whether it could be read or not, and the shape is read
back from what is written. The judgement of that shape gives the drop again if the drop is valid,
that is, if no drop in it has children besides a name or below a kind that is not composite. Only
valid drops come out of a judgement.
-/
namespace LootScript

namespace Drop

mutual

/-- Children stand below composite drops without a name only, at every depth. -/
def Valid : Drop → Prop
  | ⟨kind, name, children, _, _⟩ => match children with
    | none => True
    | some drops => kind.isComposite = true ∧ name = none ∧ AllValid drops

def AllValid : List Drop → Prop
  | [] => True
  | drop :: rest => Valid drop ∧ AllValid rest

end

mutual

/-- The shape in which a drop is written: composite drops are flagged, others say nothing. -/
def toShape : Drop → DropShape
  | ⟨kind, name, children, functions, conditions⟩ =>
    { type := kind.text
      flagged := if kind.isComposite then some true else none
      name
      children := match children with
        | none => none
        | some drops => some (toShapes drops)
      functions
      conditions }

def toShapes : List Drop → List DropShape
  | [] => []
  | drop :: rest => toShape drop :: toShapes rest

end

/-! ## From the written form to the shape -/

private theorem fieldUnlessEmpty_eq (key : String) (items : List Json) :
    fieldUnlessEmpty key items = fieldIf key ((unlessEmpty items).map .arr) := by
  cases items <;> rfl

/-- The fields of a written drop, each of which may be left out but the first. -/
def fields (kind : DropKind) (name : Option String) (children : Option (List Json))
    (functions conditions : List Json) : List (String × Json) :=
  fieldIf "type" (some (.str kind.text)) ++
    fieldIf "unsafe" ((if kind.isComposite then some true else none).map .bool) ++
    fieldIf "name" (name.map .str) ++ fieldIf "children" (children.map .arr) ++
    fieldIf "functions" ((unlessEmpty functions).map .arr) ++
    fieldIf "conditions" ((unlessEmpty conditions).map .arr)

theorem toJson_eq (kind : DropKind) (name : Option String) (children : Option (List Drop))
    (functions conditions : List Json) :
    toJson ⟨kind, name, children, functions, conditions⟩ =
      .obj (fields kind name (children.map toJsons) functions conditions) := by
  unfold toJson
  rw [fields, fieldUnlessEmpty_eq, fieldUnlessEmpty_eq]
  cases kind.isComposite <;> cases name <;> cases children <;> rfl

private theorem withFields_fields (location : String) (kind : DropKind) (name : Option String)
    (children : Option (List Json)) (functions conditions : List Json)
    (shapes : Option (List DropShape)) :
    DropShape.withFields kind.text shapes location
        (fields kind name children functions conditions) =
      .ok ⟨kind.text, if kind.isComposite then some true else none, name, shapes, functions,
        conditions⟩ := by
  have flagged : FieldType.flag.optional location "unsafe"
      (fields kind name children functions conditions) =
      .ok (if kind.isComposite then some true else none) :=
    FieldType.optional_of_lookup .bool (fun _ => rfl) (by simp)
      (by simp [fields, List.lookup_append])
  have named : FieldType.text.optional location "name"
      (fields kind name children functions conditions) = .ok name :=
    FieldType.optional_of_lookup .str (fun _ => rfl) (by simp)
      (by simp [fields, List.lookup_append])
  have called : FieldType.list.optional location "functions"
      (fields kind name children functions conditions) = .ok (unlessEmpty functions) :=
    FieldType.optional_of_lookup .arr (fun _ => rfl) (by simp)
      (by simp [fields, List.lookup_append])
  have bound : FieldType.list.optional location "conditions"
      (fields kind name children functions conditions) = .ok (unlessEmpty conditions) :=
    FieldType.optional_of_lookup .arr (fun _ => rfl) (by simp)
      (by simp [fields, List.lookup_append])
  rw [DropShape.withFields, flagged, named, called, bound]
  simp [bind, Except.bind, pure, Except.pure]

mutual

theorem ofJson_toJson (location : String) : (drop : Drop) →
    DropShape.ofJson location drop.toJson = .ok drop.toShape
  | ⟨kind, name, children, functions, conditions⟩ => by
    have typed : (fields kind name (children.map toJsons) functions conditions).lookup "type" =
        some (.str kind.text) := by
      simp [fields, List.lookup_append]
    have held : (fields kind name (children.map toJsons) functions conditions).lookup "children" =
        (children.map toJsons).map .arr := by
      simp [fields, List.lookup_append]
    rw [toJson_eq, DropShape.ofJson, typed, DropShape.readChildren_eq, held]
    cases children with
    | none =>
      rw [toShape]
      exact withFields_fields ..
    | some drops =>
      rw [toShape]
      simp only [Option.map_some, readItems_toJsons (location ++ ".children") 0 drops, Except.map]
      exact withFields_fields ..

theorem readItems_toJsons (location : String) (index : Nat) : (drops : List Drop) →
    DropShape.readItems location index (toJsons drops) = .ok (toShapes drops)
  | [] => rfl
  | drop :: rest => by
    rw [toJsons, DropShape.readItems, ofJson_toJson _ drop, readItems_toJsons location _ rest,
      toShapes]

end

/-! ## Judging the shape of a written drop -/

end Drop

theorem DropKind.ofJson_text (kind : DropKind) : DropKind.ofJson (.str kind.text) = .ok kind := by
  have formed : Identifier.WellFormed ⟨Identifier.defaultScope, kind.name⟩ := by
    refine ⟨Identifier.isPart_of_mem_defaultScope, List.all_eq_true.mp ?_⟩
    cases kind <;> decide
  rw [ofJson, Identifier.ofJson, text, Identifier.parse_text formed]
  simp

namespace Drop

mutual

theorem ofShape_toShape : (drop : Drop) → drop.Valid → ofShape drop.toShape = .ok drop
  | ⟨kind, name, children, functions, conditions⟩, valid => by
    have flag : (if kind.isComposite then some true else none).getD false = kind.isComposite := by
      cases kind.isComposite <;> rfl
    cases children with
    | none =>
      rw [toShape, ofShape_node, DropKind.ofJson_text]
      simp only [flag, ne_eq, not_true, if_false]
      rw [make, makeRefusing, if_pos rfl]
    | some drops =>
      obtain ⟨composite, nameless, deeper⟩ := valid
      rw [toShape, ofShape_node, DropKind.ofJson_text]
      simp only [flag, ne_eq, not_true, if_false]
      rw [if_neg (by simp [composite, nameless]), ofShapes_toShapes drops deeper]
      simp only
      rw [make, makeRefusing, if_pos rfl]

theorem ofShapes_toShapes : (drops : List Drop) → AllValid drops →
    ofShapes (toShapes drops) = .ok drops
  | [], _ => rfl
  | drop :: rest, valid => by
    rw [toShapes, ofShapes_node, ofShape_toShape drop valid.1, ofShapes_toShapes rest valid.2]

end

theorem eq_of_make {kind : DropKind} {flagged : Bool} {name : Option String}
    {children : Option (List Drop)} {functions conditions : List Json} {drop : Drop}
    (made : make kind flagged name children functions conditions = .ok drop) :
    drop = ⟨kind, name, children, functions, conditions⟩ := by
  unfold make makeRefusing at made
  split at made
  · exact (Except.ok.inj made).symm
  · cases made

mutual

theorem valid_of_ofShape : (shape : DropShape) → {drop : Drop} → ofShape shape = .ok drop →
    drop.Valid
  | ⟨type, flagged, name, children, functions, conditions⟩, drop, judged => by
    rw [ofShape_node] at judged
    split at judged
    · cases judged
    · next kind _ =>
      split at judged
      · cases judged
      · cases children with
        | none =>
          rw [eq_of_make judged]
          trivial
        | some shapes =>
          simp only at judged
          split at judged
          · cases judged
          · next layout =>
            -- The children were let through: the kind is composite, and there is no name.
            split at judged
            · cases judged
            · next drops deeper =>
              rw [eq_of_make judged]
              rw [not_or] at layout
              exact ⟨by simpa using layout.1, by simpa using layout.2,
                valid_of_ofShapes shapes deeper⟩

theorem valid_of_ofShapes : (shapes : List DropShape) → {drops : List Drop} →
    ofShapes shapes = .ok drops → AllValid drops
  | [], drops, judged => by
    cases judged
    trivial
  | shape :: rest, drops, judged => by
    rw [ofShapes_node] at judged
    split at judged
    · cases judged
    · next drop first =>
      split at judged
      · cases judged
      · next others later =>
        cases judged
        exact ⟨valid_of_ofShape shape first, valid_of_ofShapes rest later⟩

end

end Drop

end LootScript
