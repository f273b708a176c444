import LootScript.Script.Basic

/-!
# Sources of base scripts

A source says what each identifier stands for: a definition, nothing, or something that cannot be
read. Definitions are JSON values and are judged only when they are resolved. A source is finite:
whatever the identifiers, there are only finitely many definitions behind them. This is what makes
every walk along the `extend` references end.
-/
namespace LootScript

structure Source where
  lookup : Identifier → Except Failure (Option Json)
  finite : ∃ definitions : List Json, ∀ id definition,
    lookup id = .ok (some definition) → definition ∈ definitions

namespace Source

/-- The script that an identifier stands for; failures name the identifier by `shown`. -/
def resolve (source : Source) (id : Identifier) (shown : String) : Except Failure Script :=
  match source.lookup id with
  | .error failure => .error failure
  | .ok none => .error (.script .unknownExtension (.str shown))
  | .ok (some definition) => match ScriptShape.ofJson definition with
    | .error cause => .error (.scriptBy .unreadableExtension (.str shown) cause)
    | .ok shape => Script.ofShape shape

/-- Resolves an identifier as it is written in a script. -/
def resolveText (source : Source) (raw : Json) : Except Failure Script := do
  let reference ← Reference.ofJson raw
  source.resolve reference.identifier reference.raw

theorem resolveText_raw (source : Source) (reference : Reference) :
    source.resolveText (.str reference.raw) =
      source.resolve reference.identifier reference.raw := by
  simp [resolveText, Reference.ofJson, Reference.parse_raw, bind, Except.bind]

/-- What resolves has been decoded from a definition. -/
theorem lookup_of_resolve {source : Source} {id : Identifier} {shown : String} {script : Script}
    (resolved : source.resolve id shown = .ok script) :
    ∃ definition, source.lookup id = .ok (some definition) ∧
      Script.ofJson definition = .ok script := by
  unfold resolve at resolved
  split at resolved
  · cases resolved
  · cases resolved
  · next definition found =>
    split at resolved
    · cases resolved
    · next shape formed =>
      exact ⟨definition, found, by simp [Script.ofJson, formed, bind, Except.bind, resolved]⟩

end Source

end LootScript
