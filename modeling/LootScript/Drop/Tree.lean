import LootScript.Drop.Kind
import LootScript.Drop.Shape
import LootScript.Json.Agreement

/-!
# Drops

A drop is what a pool yields. Its functions and conditions are JSON values that nothing here looks
into. Composite drops may hold children in place of a name; children that are absent and an empty
list of children are different drops. The unsafe flag is no part of a drop, for the kind determines
it, but it has to be declared wherever a drop is made.
-/
namespace LootScript

structure Drop where
  kind : DropKind
  name : Option String
  children : Option (List Drop)
  functions : List Json
  conditions : List Json

namespace Drop

mutual

def decEq : (a b : Drop) → Decidable (a = b)
  | ⟨kind, name, children, functions, conditions⟩,
    ⟨kind', name', children', functions', conditions'⟩ =>
    let _ : Decidable (children = children') := match children, children' with
      | none, none => isTrue rfl
      | some as, some bs =>
        let _ := decEqAll as bs
        decidable_of_iff (as = bs) (by simp)
      | none, some _ | some _, none => isFalse nofun
    decidable_of_iff (kind = kind' ∧ name = name' ∧ children = children' ∧
      functions = functions' ∧ conditions = conditions') (by simp)

def decEqAll : (as bs : List Drop) → Decidable (as = bs)
  | [], [] => isTrue rfl
  | [], _ :: _ | _ :: _, [] => isFalse nofun
  | a :: as, b :: bs =>
    let _ := decEq a b
    let _ := decEqAll as bs
    decidable_of_iff (a = b ∧ as = bs) (by simp)

end

instance : DecidableEq Drop := decEq

/-- Makes a single drop; a declared flag that is not the one that the kind requires is refused. -/
def makeRefusing (refusal : DropKind → Failure) (kind : DropKind) (flagged : Bool)
    (name : Option String) (children : Option (List Drop)) (functions conditions : List Json) :
    Except Failure Drop :=
  if flagged = kind.isComposite then .ok ⟨kind, name, children, functions, conditions⟩
  else .error (refusal kind)

mutual

/--
Judges a drop by its meaning: its type, its flag, whether it may have children at all, and then the
children from left to right. The drop that is made in the end has its own way to refuse a flag.
-/
def ofShapeRefusing (refusal : DropKind → Failure) : DropShape → Except Failure Drop
  | ⟨type, flagged, name, children, functions, conditions⟩ =>
    match DropKind.ofJson (.str type) with
    | .error failure => .error failure
    | .ok kind =>
      if flagged.getD false ≠ kind.isComposite then .error (.script .unsafeFlag (.str type))
      else match children with
        | none => makeRefusing refusal kind (flagged.getD false) name none functions conditions
        | some shapes =>
          if !kind.isComposite ∨ name.isSome then .error (.script .dropLayout (.str type))
          else match ofShapesRefusing refusal shapes with
            | .error failure => .error failure
            | .ok drops =>
              makeRefusing refusal kind (flagged.getD false) name (some drops) functions conditions

def ofShapesRefusing (refusal : DropKind → Failure) : List DropShape → Except Failure (List Drop)
  | [] => .ok []
  | shape :: rest => match ofShapeRefusing refusal shape with
    | .error failure => .error failure
    | .ok drop => match ofShapesRefusing refusal rest with
      | .error failure => .error failure
      | .ok drops => .ok (drop :: drops)

end

/-- Making a drop reports a wrong flag with the kind in full. -/
def wrongFlag (kind : DropKind) : Failure := .script .unsafeFlag (.str kind.text)

def make : DropKind → Bool → Option String → Option (List Drop) → List Json → List Json →
    Except Failure Drop :=
  makeRefusing wrongFlag

def ofShape : DropShape → Except Failure Drop := ofShapeRefusing wrongFlag

def ofShapes : List DropShape → Except Failure (List Drop) := ofShapesRefusing wrongFlag

theorem ofShape_node (type : String) (flagged : Option Bool) (name : Option String)
    (children : Option (List DropShape)) (functions conditions : List Json) :
    ofShape ⟨type, flagged, name, children, functions, conditions⟩ =
      match DropKind.ofJson (.str type) with
      | .error failure => .error failure
      | .ok kind =>
        if flagged.getD false ≠ kind.isComposite then .error (.script .unsafeFlag (.str type))
        else match children with
          | none => make kind (flagged.getD false) name none functions conditions
          | some shapes =>
            if !kind.isComposite ∨ name.isSome then .error (.script .dropLayout (.str type))
            else match ofShapes shapes with
              | .error failure => .error failure
              | .ok drops =>
                make kind (flagged.getD false) name (some drops) functions conditions := by
  rw [ofShape, ofShapeRefusing]
  rfl

theorem ofShapes_node (shape : DropShape) (rest : List DropShape) :
    ofShapes (shape :: rest) = match ofShape shape with
      | .error failure => .error failure
      | .ok drop => match ofShapes rest with
        | .error failure => .error failure
        | .ok drops => .ok (drop :: drops) := by
  rw [ofShapes, ofShapesRefusing]
  rfl

/-- A field that is written only if there is something to write. -/
def fieldUnlessEmpty (key : String) : List Json → List (String × Json)
  | [] => []
  | items => [(key, .arr items)]

mutual

/-- The script form of a drop. Fields that say nothing are left out. -/
def toJson : Drop → Json
  | ⟨kind, name, children, functions, conditions⟩ =>
    .obj (
      [("type", .str kind.text)] ++
      (if kind.isComposite then [("unsafe", .bool true)] else []) ++
      (match name with
        | some name => [("name", .str name)]
        | none => []) ++
      (match children with
        | some drops => [("children", .arr (toJsons drops))]
        | none => []) ++
      fieldUnlessEmpty "functions" functions ++
      fieldUnlessEmpty "conditions" conditions)

def toJsons : List Drop → List Json
  | [] => []
  | drop :: rest => toJson drop :: toJsons rest

end

mutual

/-- The same drop, for values that agree. -/
def agrees : Drop → Drop → Bool
  | ⟨kind, name, children, functions, conditions⟩,
    ⟨kind', name', children', functions', conditions'⟩ =>
    kind == kind' && name == name' &&
    (match children, children' with
      | some drops, some drops' => agreesAll drops drops'
      | none, none => true
      | _, _ => false) &&
    Json.agreesItems functions functions' && Json.agreesItems conditions conditions'

def agreesAll : List Drop → List Drop → Bool
  | [], [] => true
  | a :: as, b :: bs => agrees a b && agreesAll as bs
  | _, _ => false

end

end Drop

end LootScript
