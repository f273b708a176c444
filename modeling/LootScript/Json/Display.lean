import LootScript.Json.Numeral
import LootScript.Json.Value
import LootScript.Text.Printable

/-!
# Values in messages

A message names a value by a plain text: a string stands for itself, the constants are `None`,
`True` and `False`, and a string inside a list or an object is put in quotation marks.
-/
namespace LootScript

namespace Json

namespace Display

/-- Positional from four places behind the point to sixteen before it; exponents of two digits. -/
def numerals : Notation10 := ⟨-4, 15, 2⟩

/-- A code point in hexadecimal, filled up to a width. -/
def codePoint (width n : Nat) : List Char :=
  let digits := Nat.toDigits 16 n
  List.replicate (width - digits.length) '0' ++ digits

def escape (mark c : Char) : List Char :=
  if c = mark ∨ c = '\\' then ['\\', c]
  else if c = '\n' then ['\\', 'n']
  else if c = '\r' then ['\\', 'r']
  else if c = '\t' then ['\\', 't']
  else if Text.isPrintable c then [c]
  else if c.toNat < 0x100 then '\\' :: 'x' :: codePoint 2 c.toNat
  else if c.toNat < 0x10000 then '\\' :: 'u' :: codePoint 4 c.toNat
  else '\\' :: 'U' :: codePoint 8 c.toNat

/-- Single marks, unless the text has one and no double mark. -/
def quote (text : String) : String :=
  let chars := text.toList
  let mark := if chars.contains '\'' && !chars.contains '"' then '"' else '\''
  String.ofList (mark :: (chars.flatMap (escape mark) ++ [mark]))

mutual

def nested : Json → String
  | .null => "None"
  | .bool b => if b then "True" else "False"
  | .int n => toString n.value
  | .double d => numerals.render d
  | .str text => quote text
  | .arr items => "[" ++ String.intercalate ", " (nestedItems items) ++ "]"
  | .obj fields => "\x7b" ++ String.intercalate ", " (nestedFields fields) ++ "\x7d"

def nestedItems : List Json → List String
  | [] => []
  | item :: rest => nested item :: nestedItems rest

def nestedFields : List (String × Json) → List String
  | [] => []
  | (key, value) :: rest => (quote key ++ ": " ++ nested value) :: nestedFields rest

end

end Display

def display : Json → String
  | .str text => text
  | value => Display.nested value

@[simp]
theorem display_str (text : String) : display (.str text) = text := rfl

end Json

end LootScript
