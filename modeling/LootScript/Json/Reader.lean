import LootScript.OrderedMap
import LootScript.Json.Token

/-!
# Reading JSON

A document is read token by token. The containers that are still open form a stack, and the reader
stands at one of the places where the grammar allows a different next token. A key that occurs
twice in an object keeps its first position and its last value. Containers nest at most 1024 deep.
-/
namespace LootScript

namespace Json

/-- A container whose end has not been read; its members come last one first. -/
inductive Frame
  | array (items : List Json)
  /-- The value of `key` is being read. -/
  | object (fields : List (String × Json)) (key : String)

/-- Where the reader stands. -/
inductive Reader
  | atValue (stack : List Frame)
  | atFirstItem (stack : List Frame)
  | atFirstKey (stack : List Frame)
  | atKey (fields : List (String × Json)) (stack : List Frame)
  | atColon (fields : List (String × Json)) (key : String) (stack : List Frame)
  | afterItem (items : List Json) (stack : List Frame)
  | afterField (fields : List (String × Json)) (stack : List Frame)
  | finished (value : Json)

namespace Reader

def maxDepth : Nat := 1024

/-- Hands a complete value to the container around it. -/
def complete (value : Json) : List Frame → Reader
  | [] => .finished value
  | .array items :: stack => .afterItem (value :: items) stack
  | .object fields key :: stack => .afterField (OrderedMap.insertEntry key value fields) stack

/-- A token at which a value may start. -/
def startValue (stack : List Frame) : Token → Option Reader
  | .scalar value => some (complete value stack)
  | .openBracket => if stack.length < maxDepth then some (.atFirstItem stack) else none
  | .openBrace => if stack.length < maxDepth then some (.atFirstKey stack) else none
  | _ => none

def step : Reader → Token → Option Reader
  | .atValue stack, token => startValue stack token
  | .atFirstItem stack, .closeBracket => some (complete (.arr []) stack)
  | .atFirstItem stack, token => startValue (.array [] :: stack) token
  | .atFirstKey stack, .closeBrace => some (complete (.obj []) stack)
  | .atFirstKey stack, .scalar (.str key) => some (.atColon [] key stack)
  | .atKey fields stack, .scalar (.str key) => some (.atColon fields key stack)
  | .atColon fields key stack, .colon => some (.atValue (.object fields key :: stack))
  | .afterItem items stack, .comma => some (.atValue (.array items :: stack))
  | .afterItem items stack, .closeBracket => some (complete (.arr items.reverse) stack)
  | .afterField fields stack, .comma => some (.atKey fields stack)
  | .afterField fields stack, .closeBrace => some (complete (.obj fields) stack)
  | _, _ => none

end Reader

/-- The value that a text denotes, if it is a JSON text. -/
def parse? (text : List Char) : Option Json := do
  match ← (← tokens? text).foldlM Reader.step (.atValue []) with
  | .finished value => some value
  | _ => none

/-- The value of a file's content, which has to be UTF-8. -/
def decode? (content : ByteArray) : Option Json := do
  parse? (← String.fromUTF8? content).toList

end Json

end LootScript
