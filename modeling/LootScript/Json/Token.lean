import LootScript.Json.Estimate
import LootScript.Json.Value

/-!
# Tokens of JSON text

The text of a JSON document is a sequence of punctuation marks and scalars, with blanks between
them. A scalar token holds the value it denotes. The scanner takes one character at a time, and
its mode says what the characters since the last token may still become. Reading is strict: no
leading zeros, no bare control characters in strings, and an escaped surrogate has to come in a
pair.
-/
namespace LootScript

namespace Json

inductive Token
  | openBrace
  | closeBrace
  | openBracket
  | closeBracket
  | colon
  | comma
  | scalar (value : Json)
  deriving DecidableEq

def isBlank (c : Char) : Bool := c == ' ' || c == '\n' || c == '\r' || c == '\t'

def punctuation? : Char → Option Token
  | '{' => some .openBrace
  | '}' => some .closeBrace
  | '[' => some .openBracket
  | ']' => some .closeBracket
  | ':' => some .colon
  | ',' => some .comma
  | _ => none

/-! ## Numbers and words -/

def isDigit (c : Char) : Bool := '0' ≤ c ∧ c ≤ '9'

def naturalOf (digits : List Char) : Nat :=
  digits.foldl (fun n c => 10 * n + (c.toNat - 48)) 0

/-- The digits after a point, if there is one, and the rest of the numeral. -/
def fraction? : List Char → Option (List Char × List Char)
  | '.' :: rest =>
    let digits := rest.takeWhile isDigit
    if digits.isEmpty then none else some (digits, rest.dropWhile isDigit)
  | rest => some ([], rest)

/-- The exponent that ends a numeral; without one it is zero. -/
def exponent? : List Char → Option Int
  | [] => some 0
  | mark :: rest =>
    let (negative, digits) := match rest with
      | '-' :: digits => (true, digits)
      | '+' :: digits => (false, digits)
      | digits => (false, digits)
    if (mark = 'e' ∨ mark = 'E') ∧ !digits.isEmpty ∧ digits.all isDigit then
      some (if negative then -naturalOf digits else naturalOf digits)
    else none

/-- A numeral with zeros alone behind these digits is read exactly, however many they are. -/
def leadingDigits : Nat := 19

/-- Digits behind these are put aside: no point halfway between two doubles has more. -/
def weighedDigits : Nat := 768

/-- Whether all digits of a numeral are weighed, of those that it has after its leading zeros. -/
def isShort (significant : List Char) : Bool :=
  significant.length ≤ weighedDigits ∨ (significant.drop leadingDigits).all (· = '0')

/--
The digits of a numeral that are weighed. A single one stands for those that are put aside, without
a look at whether they are zeros. So a numeral whose first digits end halfway between two doubles
lies beyond the half.
-/
def weighed (significant : List Char) : List Char :=
  if isShort significant then significant else significant.take weighedDigits ++ ['1']

theorem weighed_of_length_le {significant : List Char}
    (short : significant.length ≤ weighedDigits) : weighed significant = significant := by
  simp [weighed, isShort, short]

/-- What the leading digits of a numeral tell, where the last digit counts `10 ^ exponent`. -/
def leadingEstimate (significant : List Char) (exponent : Int) : Estimate :=
  let rest := significant.drop leadingDigits
  let carry := if '5' ≤ rest.headD '0' then 1 else 0
  .ofDecimal (naturalOf (significant.take leadingDigits) + carry) (exponent + rest.length)

/--
The double that a numeral with a fraction or an exponent denotes. A point behind the weighed digits
and the one put for the others is passed over when they are compared, so the numeral seems ten times
as large. That matters only where its leading digits leave two doubles open: then it is the larger
one, unless even ten times the number is nearest to zero.
-/
def double? (negative : Bool) (whole fraction : List Char) (exponent : Int) : Option Double := do
  let significant := (whole ++ fraction).dropWhile (· = '0')
  let digits := weighed significant
  let coefficient := naturalOf digits
  let last := exponent - fraction.length
  let scale : Int := last + (significant.length - digits.length)
  let nearest ← Double.ofDecimal? negative coefficient scale
  if isShort significant ∨ whole.length ≤ weighedDigits + 1 ∨ fraction.isEmpty
      ∨ (Double.ofDecimal? false coefficient (scale + 1)).any Double.isZero then
    return nearest
  else
    let estimate := leadingEstimate significant last
    if estimate.isOpen then Double.ofMagnitude? negative (estimate.below + 1) else return nearest

/-- A numeral without a fraction and an exponent is an integer; minus zero is then zero. -/
def unsignedNumber? (negative : Bool) (numeral : List Char) : Option Json :=
  let whole := numeral.takeWhile isDigit
  let rest := numeral.dropWhile isDigit
  if whole.isEmpty ∨ (whole.head? = some '0' ∧ whole.length ≠ 1) then none
  else if rest.isEmpty then
    ofInteger? (if negative then -naturalOf whole else naturalOf whole)
  else do
    let (fraction, rest) ← fraction? rest
    let exponent ← exponent? rest
    return .double (← double? negative whole fraction exponent)

/-- The value of a run of characters that is neither a string nor punctuation. -/
def word? : List Char → Option Json
  | ['n', 'u', 'l', 'l'] => some .null
  | ['t', 'r', 'u', 'e'] => some (.bool true)
  | ['f', 'a', 'l', 's', 'e'] => some (.bool false)
  | '-' :: numeral => unsignedNumber? true numeral
  | numeral => unsignedNumber? false numeral

/-! ## Strings -/

def hexDigit? (c : Char) : Option Nat :=
  if isDigit c then some (c.toNat - 48)
  else if 'a' ≤ c ∧ c ≤ 'f' then some (c.toNat - 87)
  else if 'A' ≤ c ∧ c ≤ 'F' then some (c.toNat - 55)
  else none

/-- The escapes of one letter. -/
def escape? : Char → Option Char
  | '"' => some '"'
  | '\\' => some '\\'
  | '/' => some '/'
  | 'b' => some '\x08'
  | 'f' => some '\x0c'
  | 'n' => some '\n'
  | 'r' => some '\r'
  | 't' => some '\t'
  | _ => none

def isHighSurrogate (unit : Nat) : Bool := 0xD800 ≤ unit ∧ unit < 0xDC00

def isLowSurrogate (unit : Nat) : Bool := 0xDC00 ≤ unit ∧ unit < 0xE000

def pairedSurrogates (high low : Nat) : Char :=
  Char.ofNat (0x10000 + (high - 0xD800) * 0x400 + (low - 0xDC00))

/-! ## The scanner -/

/-- What has been read since the last token. The characters of a string come last one first. -/
inductive Scanner.Mode
  | between
  | word (letters : List Char)
  | string (text : List Char)
  | escape (text : List Char)
  /-- Inside `\u`; `high` is the surrogate that this escape has to complete. -/
  | unit (text : List Char) (high : Option Nat) (digits : List Nat)
  /-- After a high surrogate: the next escape has to follow at once. -/
  | gap (text : List Char) (high : Nat)
  | gapEscape (text : List Char) (high : Nat)

/-- The tokens read so far, last one first, and what is still open. -/
structure Scanner where
  tokens : List Token
  mode : Scanner.Mode

namespace Scanner

def start : Scanner := ⟨[], .between⟩

def emit (s : Scanner) (token : Token) : Scanner := ⟨token :: s.tokens, .between⟩

/-- A character outside of strings and words. -/
def outside (s : Scanner) (c : Char) : Option Scanner :=
  if isBlank c then some { s with mode := .between }
  else if c = '"' then some { s with mode := .string [] }
  else match punctuation? c with
    | some token => some (s.emit token)
    | none => some { s with mode := .word [c] }

/-- Completes an escaped code unit. -/
def codeUnit (s : Scanner) (text : List Char) (high : Option Nat) (unit : Nat) : Option Scanner :=
  match high with
  | some first =>
    if isLowSurrogate unit then
      some { s with mode := .string (pairedSurrogates first unit :: text) }
    else none
  | none =>
    if isHighSurrogate unit then some { s with mode := .gap text unit }
    else if isLowSurrogate unit then none
    else some { s with mode := .string (Char.ofNat unit :: text) }

def step (s : Scanner) (c : Char) : Option Scanner :=
  match s.mode with
  | .between => s.outside c
  | .word letters =>
    if isBlank c ∨ (punctuation? c).isSome then do
      let value ← word? letters.reverse
      (s.emit (.scalar value)).outside c
    else some { s with mode := .word (c :: letters) }
  | .string text =>
    if c = '"' then some (s.emit (.scalar (.str (String.ofList text.reverse))))
    else if c = '\\' then some { s with mode := .escape text }
    else if c.toNat < 0x20 then none
    else some { s with mode := .string (c :: text) }
  | .escape text =>
    if c = 'u' then some { s with mode := .unit text none [] }
    else (escape? c).map fun char => { s with mode := .string (char :: text) }
  | .unit text high digits =>
    match hexDigit? c with
    | none => none
    | some digit =>
      -- The fourth digit completes the code unit.
      if digits.length < 3 then some { s with mode := .unit text high (digits ++ [digit]) }
      else s.codeUnit text high ((digits ++ [digit]).foldl (fun n d => 16 * n + d) 0)
  -- A high surrogate alone is no character.
  | .gap text high => if c = '\\' then some { s with mode := .gapEscape text high } else none
  | .gapEscape text high =>
    if c = 'u' then some { s with mode := .unit text (some high) [] } else none

/-- The tokens in order, once the text has ended. -/
def finish (s : Scanner) : Option (List Token) :=
  match s.mode with
  | .between => some s.tokens.reverse
  | .word letters => (word? letters.reverse).map fun value =>
    (Token.scalar value :: s.tokens).reverse
  | _ => none

end Scanner

def tokens? (text : List Char) : Option (List Token) := do
  (← text.foldlM Scanner.step Scanner.start).finish

end Json

end LootScript
