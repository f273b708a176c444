import LootScript.Json.Numeral
import LootScript.Json.Value

/-!
# Printing JSON

Members are written in the order in which they stand. The indented layout puts each member on a
line of its own and leaves empty containers closed up; the compact layout has no blanks at all.
Only the quotation mark, the backslash and the controls below the space are escaped. Containers that
nest too deep are not printed for readers.
-/
namespace LootScript

namespace Json

/-- Positional from five places behind the point to sixteen before it. -/
def numerals : Notation10 := ⟨-5, 15, 1⟩

structure Layout where
  /-- The break before a member, or before the closing bracket, at a depth of nesting. -/
  line : Nat → String
  afterKey : String

def compactLayout : Layout := ⟨fun _ => "", ":"⟩

def indentedLayout : Layout :=
  ⟨fun depth => String.ofList ('\n' :: List.replicate (2 * depth) ' '), ": "⟩

def hexDigit (n : Nat) : Char := (Nat.toDigits 16 (n % 16)).headD '0'

def escape (c : Char) : List Char :=
  match c with
  | '"' => ['\\', '"']
  | '\\' => ['\\', '\\']
  | '\x08' => ['\\', 'b']
  | '\x0c' => ['\\', 'f']
  | '\n' => ['\\', 'n']
  | '\r' => ['\\', 'r']
  | '\t' => ['\\', 't']
  | c =>
    if c.toNat < 0x20 then ['\\', 'u', '0', '0', hexDigit (c.toNat / 16), hexDigit c.toNat]
    else [c]

def quote (text : String) : String :=
  String.ofList ('"' :: (text.toList.flatMap escape ++ ['"']))

/-- Members between brackets. -/
def enclose (layout : Layout) (depth : Nat) (opening closing : String) : List String → String
  | [] => opening ++ closing
  | members =>
    opening ++ layout.line (depth + 1) ++
      String.intercalate ("," ++ layout.line (depth + 1)) members ++ layout.line depth ++ closing

mutual

def print (layout : Layout) (depth : Nat) : Json → String
  | .null => "null"
  | .bool b => if b then "true" else "false"
  | .int n => toString n.value
  | .double d => numerals.render d
  | .str text => quote text
  | .arr items => enclose layout depth "[" "]" (printItems layout (depth + 1) items)
  | .obj fields => enclose layout depth "\x7b" "\x7d" (printFields layout (depth + 1) fields)

def printItems (layout : Layout) (depth : Nat) : List Json → List String
  | [] => []
  | item :: rest => print layout depth item :: printItems layout depth rest

def printFields (layout : Layout) (depth : Nat) : List (String × Json) → List String
  | [] => []
  | (key, value) :: rest =>
    (quote key ++ layout.afterKey ++ print layout depth value) :: printFields layout depth rest

end

/-- How deep containers may nest. -/
def nestingLimit : Nat := 254

mutual

/-- Whether containers, empty ones too, nest no deeper than a number of levels. -/
def nestsWithin (levels : Nat) : Json → Bool
  | .arr items => 0 < levels && nestAllWithin (levels - 1) items
  | .obj fields => 0 < levels && fieldsNestWithin (levels - 1) fields
  | _ => true

def nestAllWithin (levels : Nat) : List Json → Bool
  | [] => true
  | item :: rest => nestsWithin levels item && nestAllWithin levels rest

def fieldsNestWithin (levels : Nat) : List (String × Json) → Bool
  | [] => true
  | (_, value) :: rest => nestsWithin levels value && fieldsNestWithin levels rest

end

def indented (value : Json) : String := print indentedLayout 0 value

/-- The indented text, if there is one. -/
def indented? (value : Json) : Option String :=
  if value.nestsWithin nestingLimit then some value.indented else none

def compact (value : Json) : String := print compactLayout 0 value

end Json

end LootScript
