import LootScript.Failure

/-!
# Identifiers

Drop types, pools and base scripts are named by identifiers, written `scope:name`. The scope may
be left out together with the colon, and is then `minecraft`. Lower-case letters, digits, the
slash, the hyphen and the underscore may stand in either part, and either part may be empty.
-/
namespace LootScript

structure Identifier where
  scope : String
  name : String
  deriving DecidableEq

namespace Identifier

def defaultScope : String := "minecraft"

def text (id : Identifier) : String := id.scope ++ ":" ++ id.name

/-- The characters of a written identifier, its colon included. -/
def isAllowed (c : Char) : Bool :=
  ('a' ≤ c ∧ c ≤ 'z') || ('0' ≤ c ∧ c ≤ '9') || c == ':' || c == '/' || c == '_' || c == '-'

/-- The two sides of the first colon. -/
def ofColon (text : List Char) : Identifier :=
  ⟨String.ofList (text.takeWhile (· ≠ ':')), String.ofList ((text.dropWhile (· ≠ ':')).drop 1)⟩

/-- Reads a written identifier; a forbidden character is reported before a second colon. -/
def parse (text : String) : Except Failure Identifier :=
  if text.isEmpty ∨ !text.toList.all isAllowed then
    .error (.script .identifierCharacters (.str text))
  else match text.toList.count ':' with
    | 0 => .ok ⟨defaultScope, text⟩
    | 1 => .ok (ofColon text.toList)
    | _ => .error (.script .identifierColons (.str text))

/-- Only a string can be an identifier; anything else is refused by the text that displays it. -/
def ofJson : Json → Except Failure Identifier
  | .str text => parse text
  | value => .error (.script .identifierCharacters (.str value.display))

/-- Reads a list of identifiers up to the first one that is wrong. -/
def parseAll (texts : List String) : Except Failure (List Identifier) := texts.mapM parse

end Identifier

end LootScript
