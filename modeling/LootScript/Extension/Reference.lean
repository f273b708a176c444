import LootScript.Identifier

/-!
# References to base scripts

A script names the script that it extends by an identifier. The text of the reference is kept as it
was written: two references can mean the same base script and still be different.
-/
namespace LootScript

structure Reference where
  raw : String
  identifier : Identifier
  parsed : Identifier.parse raw = .ok identifier
  deriving DecidableEq

namespace Reference

def parse (raw : String) : Except Failure Reference :=
  match parsed : Identifier.parse raw with
  | .ok identifier => .ok ⟨raw, identifier, parsed⟩
  | .error cause => .error (.scriptBy .extension (.str raw) cause)

/-- Only a string can be a reference; anything else is refused as it is. -/
def ofJson (value : Json) : Except Failure Reference :=
  match value with
  | .str raw => parse raw
  | _ => match Identifier.ofJson value with
    | .error cause => .error (.scriptBy .extension value cause)
    | .ok _ => .error (.script .extension value)

theorem parse_raw (reference : Reference) : parse reference.raw = .ok reference := by
  obtain ⟨raw, identifier, parsed⟩ := reference
  unfold parse
  split
  · next other found =>
    rw [parsed] at found
    cases found; rfl
  · next found => rw [parsed] at found; cases found

end Reference

end LootScript
