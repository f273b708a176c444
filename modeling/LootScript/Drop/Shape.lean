import LootScript.Failure

/-!
# The shape of a drop

Before a drop is judged by its meaning, its JSON form is checked: the type is a string, and every
other field is absent, null or of its own type. Fields that are not known are ignored. The checks
have a fixed order, and a list of children is gone through before the fields that come after it, so
the first fault is at a place that depends on the data alone and not on the order of its keys.
-/
namespace LootScript

/-- The type that a field has to have: its name in messages, and how a value of it is read. -/
structure FieldType (α : Type) where
  name : String
  read? : Json → Option α

namespace FieldType

def text : FieldType String := ⟨"str", fun | .str text => some text | _ => none⟩

def flag : FieldType Bool := ⟨"bool", fun | .bool b => some b | _ => none⟩

def list : FieldType (List Json) := ⟨"list", fun | .arr items => some items | _ => none⟩

def object : FieldType (List (String × Json)) :=
  ⟨"dict", fun | .obj fields => some fields | _ => none⟩

def refuse {α β : Type} (type : FieldType α) (location key : String) : Except Failure β :=
  .error (.shape (location ++ "." ++ key) ("expected " ++ type.name))

/-- Reads a field of an object; a null field is absent. -/
def optional {α : Type} (type : FieldType α) (location key : String)
    (fields : List (String × Json)) : Except Failure (Option α) :=
  match fields.lookup key with
  | none | some .null => .ok none
  | some value => match type.read? value with
    | some a => .ok (some a)
    | none => type.refuse location key

end FieldType

/-- A drop as it is written: the type is any text, and the unsafe flag may be left out. -/
structure DropShape where
  type : String
  flagged : Option Bool
  name : Option String
  children : Option (List DropShape)
  functions : List Json
  conditions : List Json
  deriving Inhabited

namespace DropShape

/-- Reads the fields that come after the children. -/
def withFields (type : String) (children : Option (List DropShape)) (location : String)
    (fields : List (String × Json)) : Except Failure DropShape := do
  let flagged ← FieldType.flag.optional location "unsafe" fields
  let name ← FieldType.text.optional location "name" fields
  let functions ← FieldType.list.optional location "functions" fields
  let conditions ← FieldType.list.optional location "conditions" fields
  return ⟨type, flagged, name, children, functions.getD [], conditions.getD []⟩

mutual

/-- Checks the shape of a drop that stands at a location. -/
def ofJson (location : String) : Json → Except Failure DropShape
  | .obj fields => match fields.lookup "type" with
    | some (.str type) => match readChildren location fields with
      | .ok children => withFields type children location fields
      | .error failure => .error failure
    | _ => .error (.shape (location ++ ".type") "required string")
  | _ => .error (.shape location "expected object")

def readChildren (location : String) :
    List (String × Json) → Except Failure (Option (List DropShape))
  | [] => .ok none
  | (key, value) :: rest =>
    if key = "children" then
      match value with
      | .null => .ok none
      | .arr items => match readItems (location ++ ".children") 0 items with
        | .ok children => .ok (some children)
        | .error failure => .error failure
      | _ => FieldType.list.refuse location "children"
    else readChildren location rest

/-- Checks the items of a list, which are counted from `index`. -/
def readItems (location : String) (index : Nat) : List Json → Except Failure (List DropShape)
  | [] => .ok []
  | item :: rest =>
    match ofJson (location ++ "[" ++ toString index ++ "]") item with
    | .error failure => .error failure
    | .ok shape => match readItems location (index + 1) rest with
      | .ok shapes => .ok (shape :: shapes)
      | .error failure => .error failure

end

end DropShape

end LootScript
