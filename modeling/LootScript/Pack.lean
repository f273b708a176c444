import LootScript.FileTree.Basic
import LootScript.Json.Reader

/-!
# Pack descriptions

The description of a pack is a JSON file. It is usable if it lists compiler options, and every
option is an object with a name. An option list that is absent or null is a fault of its own; every
other wrong form is reported with the place in the list.
-/
namespace LootScript

namespace Pack

def hasName (option : Json) : Bool :=
  match option.field? "name" with
  | some (.str _) => true
  | _ => false

/-- Checks options that are counted from `index`. -/
def checkOptions (index : Nat) : List Json → Except Failure Unit
  | [] => .ok ()
  | option :: rest =>
    if hasName option then checkOptions (index + 1) rest
    else .error (.shape ("compiler_options[" ++ toString index ++ "]")
      "expected an object with a string name")

def checkDescription (path : Path) (description : Json) : Except Failure Unit :=
  match description.present? "compiler_options" with
  | none => .error (.packWithoutOptions path.text)
  | some (.arr options) => (checkOptions 0 options).mapError (.packForm path.text)
  | some _ => .error (.packForm path.text (.shape "compiler_options" "expected a list"))

def check (files : FileTree) (path : Path) : Except Failure Unit := do
  if !(← files.exists? path) then .error (.packMissing path.text)
  else if ← files.isDirectory path then .error (.packIsDirectory path.text)
  else
    let content ← (files.read path).mapError (.packAccess path.text)
    match Json.decode? content with
    | none => .error (.packForm path.text .notJson)
    | some description => checkDescription path description

end Pack

end LootScript
