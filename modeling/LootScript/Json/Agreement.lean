import LootScript.Json.Value

/-!
# Agreement of JSON values

Two values agree when they have the same content: numbers by their value, so that an integer and a
double can agree, the truth values as the numbers one and zero, lists item by item, and objects key
by key whatever the order of the keys.
-/
namespace LootScript

namespace Json

/-- The exact value of a number, as a quotient. -/
def quotient? : Json → Option (Int × Nat)
  | .bool b => some (if b then 1 else 0, 1)
  | .int n => some (n.value, 1)
  | .double d => some (if d.negative then -(d.numerator : Int) else d.numerator, d.denominator)
  | _ => none

mutual

def agrees : Json → Json → Bool
  | .null, .null => true
  | .str a, .str b => a == b
  | .arr a, .arr b => agreesItems a b
  | .obj a, .obj b => a.length == b.length && agreesFields a b
  | a, b => match a.quotient?, b.quotient? with
    | some (n, d), some (m, e) => n * e == m * d
    | _, _ => false

def agreesItems : List Json → List Json → Bool
  | [], [] => true
  | a :: as, b :: bs => agrees a b && agreesItems as bs
  | _, _ => false

/-- Every field of the first list is found in the second one. -/
def agreesFields : List (String × Json) → List (String × Json) → Bool
  | [], _ => true
  | (key, a) :: rest, fields => match fields.lookup key with
    | some b => agrees a b && agreesFields rest fields
    | none => false

end

end Json

end LootScript
