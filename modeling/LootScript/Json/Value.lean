import LootScript.Json.Double

/-!
# JSON values

Numbers are of two kinds: integers that fit in 64 bits, with or without a sign, and doubles. An
integer literal outside that range denotes the double nearest to it. The fields of an object keep
the order in which they were written.
-/
namespace LootScript

/-- The integers from `-2 ^ 63` up to, but without, `2 ^ 64`. -/
structure Integer64 where
  value : Int
  fits : -0x8000000000000000 ≤ value ∧ value < 0x10000000000000000
  deriving DecidableEq

inductive Json
  | null
  | bool (b : Bool)
  | int (n : Integer64)
  | double (d : Double)
  | str (text : String)
  | arr (items : List Json)
  | obj (fields : List (String × Json))
  deriving Inhabited

namespace Json

mutual

def decEq : (a b : Json) → Decidable (a = b)
  | .null, b => match b with
    | .null => isTrue rfl
    | .bool _ | .int _ | .double _ | .str _ | .arr _ | .obj _ => isFalse nofun
  | .bool x, b => match b with
    | .bool y => decidable_of_iff (x = y) (by simp)
    | .null | .int _ | .double _ | .str _ | .arr _ | .obj _ => isFalse nofun
  | .int x, b => match b with
    | .int y => decidable_of_iff (x = y) (by simp)
    | .null | .bool _ | .double _ | .str _ | .arr _ | .obj _ => isFalse nofun
  | .double x, b => match b with
    | .double y => decidable_of_iff (x = y) (by simp)
    | .null | .bool _ | .int _ | .str _ | .arr _ | .obj _ => isFalse nofun
  | .str x, b => match b with
    | .str y => decidable_of_iff (x = y) (by simp)
    | .null | .bool _ | .int _ | .double _ | .arr _ | .obj _ => isFalse nofun
  | .arr xs, b => match b with
    | .arr ys =>
      let _ := decEqItems xs ys
      decidable_of_iff (xs = ys) (by simp)
    | .null | .bool _ | .int _ | .double _ | .str _ | .obj _ => isFalse nofun
  | .obj xs, b => match b with
    | .obj ys =>
      let _ := decEqFields xs ys
      decidable_of_iff (xs = ys) (by simp)
    | .null | .bool _ | .int _ | .double _ | .str _ | .arr _ => isFalse nofun

def decEqItems : (xs ys : List Json) → Decidable (xs = ys)
  | [], [] => isTrue rfl
  | [], _ :: _ | _ :: _, [] => isFalse nofun
  | x :: xs, y :: ys =>
    let _ := decEq x y
    let _ := decEqItems xs ys
    decidable_of_iff (x = y ∧ xs = ys) (by simp)

def decEqFields : (xs ys : List (String × Json)) → Decidable (xs = ys)
  | [], [] => isTrue rfl
  | [], _ :: _ | _ :: _, [] => isFalse nofun
  | (k, x) :: xs, (l, y) :: ys =>
    let _ := decEq x y
    let _ := decEqFields xs ys
    decidable_of_iff ((k = l ∧ x = y) ∧ xs = ys) (by simp)

end

instance : DecidableEq Json := decEq

/-- The number that an integer literal denotes, unless it is beyond the largest double. -/
def ofInteger? (n : Int) : Option Json :=
  if fits : -0x8000000000000000 ≤ n ∧ n < 0x10000000000000000 then some (.int ⟨n, fits⟩)
  else (Double.ofDecimal? (n < 0) n.natAbs 0).map .double

/-- The value of a field; a value that is no object has no fields. -/
def field? (key : String) : Json → Option Json
  | .obj fields => fields.lookup key
  | _ => none

/-- The value of a field that is present and not null. -/
def present? (key : String) (value : Json) : Option Json :=
  match value.field? key with
  | some .null | none => none
  | some other => some other

end Json

end LootScript
