import LootScript.Json.Double

/-!
# Decimal numerals of doubles

A double is written with the fewest digits that read back as the same double; among numerals of
that length the nearest one is taken. Where the digits stand is a matter of the notation: a range
of decimal exponents is written in positional notation, the rest with an exponent.
-/
namespace LootScript

/-- The number `coefficient * 10 ^ exponent`. -/
structure Decimal where
  coefficient : Nat
  exponent : Int
  deriving DecidableEq

namespace Double

def magnitudeOf (d : Double) : Double := { d with negative := false }

/-- Whether a numeral denotes the absolute value of a double. -/
def isReadFrom (d : Double) (numeral : Decimal) : Bool :=
  ofDecimal? false numeral.coefficient numeral.exponent = some d.magnitudeOf

/-- The base-ten order of magnitude of a double other than zero. -/
def decimalOrder (d : Double) : Int :=
  -- No double but zero is below `10 ^ (-330)`, so there is a digit to count.
  (decimalLength (d.numerator * Nat.pow 10 330 / d.denominator) : Int) - 331

/-- The two numerals of a given length on either side of a double, the nearer one first. -/
def neighbours (d : Double) (length : Nat) : List Decimal :=
  let place := d.decimalOrder - length + 1
  let num := d.numerator * Nat.pow 10 (-place).toNat
  let den := d.denominator * Nat.pow 10 place.toNat
  let low := num / den
  let near := roundQuotient num den
  let far := if near = low then low + 1 else low
  [⟨near, place⟩, ⟨far, place⟩]

/-- All digits of a double: its denominator is a power of two, so they end. -/
def expansion (d : Double) : Decimal :=
  ⟨d.numerator * Nat.pow 5 (-d.exponent).toNat, -((-d.exponent).toNat : Int)⟩

/-- The shortest numeral that reads back; seventeen digits are always enough. -/
def shortest (d : Double) : Decimal :=
  (((List.range 17).flatMap fun n => d.neighbours (n + 1)).find? d.isReadFrom).getD d.expansion

end Double

/-- Where the notation of a double changes, and how wide an exponent is written at least. -/
structure Notation10 where
  lowest : Int
  highest : Int
  exponentWidth : Nat

namespace Notation10

/-- One digit before the point, then an exponent with its sign. -/
def scientific (style : Notation10) (digits : List Char) (order : Int) : String :=
  let fraction := match digits.drop 1 with
    | [] => ""
    | rest => "." ++ String.ofList rest
  let size := toString order.natAbs
  let padding := String.ofList (List.replicate (style.exponentWidth - size.length) '0')
  String.ofList (digits.take 1) ++ fraction ++ "e" ++ (if order < 0 then "-" else "+") ++
    padding ++ size

/-- At least one digit on each side of the point. -/
def positional (digits : List Char) (order : Int) : String :=
  if order < 0 then
    "0." ++ String.ofList (List.replicate (-order - 1).toNat '0' ++ digits)
  else
    let width := order.toNat + 1
    let whole := digits.take width ++ List.replicate (width - digits.length) '0'
    let fraction := match digits.drop width with
      | [] => ['0']
      | rest => rest
    String.ofList whole ++ "." ++ String.ofList fraction

def render (style : Notation10) (d : Double) : String :=
  let sign := if d.negative then "-" else ""
  if d.isZero then sign ++ "0.0"
  else
    let numeral := d.shortest
    let written := Nat.toDigits 10 numeral.coefficient
    let order := numeral.exponent + written.length - 1
    let digits := (written.reverse.dropWhile (· == '0')).reverse
    sign ++
      if style.lowest ≤ order ∧ order ≤ style.highest then positional digits order
      else style.scientific digits order

end Notation10

end LootScript
