import LootScript.Failure
import LootScript.Proofs.Text.Line

/-!
# The wording of failures

A message is put together from words of its own and from what the failure is about: values out of
scripts, paths, and places in a script. A value or a path is shown as it is, so the message names
it, and the message is a single line exactly if everything in it that is shown is. The failures that
come out of reading, compiling and checking have a few forms, one for each constructor below.
-/
namespace LootScript

/-- The fault is put in words of its own, around the value. -/
def ScriptFault.showsValue : ScriptFault → Bool
  | .identifierCharacters | .identifierColons | .unknownDropType | .unsafeFlag | .dropLayout
  | .unknownExtension | .circularExtension => true
  | _ => false

/-- The fault is put in the words of its cause. -/
def ScriptFault.takesWords : ScriptFault → Bool
  | .dropType | .extension => true
  | _ => false

namespace Failure

/-- What a message shows that is not its own: values, paths, and places in a script. -/
def subjects : Failure → List String
  | .script _ value => [value.display]
  | .scriptBy _ value cause => value.display :: cause.subjects
  | .shape location _ => [location]
  | .read _ path cause => path.text :: cause.subjects
  | .missing named | .notAFile named => [named]
  | .unreadableScript path cause => path.text :: cause.subjects
  | .combination _ cause => cause.subjects
  | .packMissing named | .packIsDirectory named | .packWithoutOptions named => [named]
  | .packAccess named cause | .packForm named cause => named :: cause.subjects
  | _ => []

/-! ## The forms of failures -/

/-- Why a content gives no definition: it cannot be had, is no JSON, or has a wrong shape. -/
inductive Reason (alphabet : Alphabet) : Failure → Prop
  | system : Reason alphabet .system
  | nullCharacter : Reason alphabet .nullCharacter
  | notJson : Reason alphabet .notJson
  | shape {location problem : String} : alphabet.Spells location →
    problem.toList.all Text.isPlain = true → Reason alphabet (.shape location problem)

/-- A fault of a script's content, by the texts in it. -/
inductive OfScript (alphabet : Alphabet) : Failure → Prop
  | value {fault : ScriptFault} {text : String} : fault.showsValue = true → alphabet.Spells text →
    OfScript alphabet (.script fault (.str text))
  /-- The cause is about the same text. -/
  | wrapped {outer inner : ScriptFault} {text : String} : outer.takesWords = true →
    inner.showsValue = true → alphabet.Spells text →
    OfScript alphabet (.scriptBy outer (.str text) (.script inner (.str text)))
  | unreadable {text : String} {cause : Failure} : alphabet.Spells text → Reason alphabet cause →
    OfScript alphabet (.scriptBy .unreadableExtension (.str text) cause)

/-- A failure that is reported, by the texts in it. -/
inductive Told (alphabet : Alphabet) : Failure → Prop
  | script {failure : Failure} : OfScript alphabet failure → Told alphabet failure
  | combination {index : Nat} {cause : Failure} : OfScript alphabet cause →
    Told alphabet (.combination index cause)
  | missing {named : String} : alphabet.Spells named → Told alphabet (.missing named)
  | notAFile {named : String} : alphabet.Spells named → Told alphabet (.notAFile named)
  | unreadableScript {fault : ReadFault} {path : Path} {cause : Failure} :
    alphabet.Spells path.text → Reason alphabet cause ∨ OfScript alphabet cause →
    Told alphabet (.unreadableScript path (.read fault path cause))
  | packMissing {named : String} : alphabet.Spells named → Told alphabet (.packMissing named)
  | packIsDirectory {named : String} : alphabet.Spells named →
    Told alphabet (.packIsDirectory named)
  | packWithoutOptions {named : String} : alphabet.Spells named →
    Told alphabet (.packWithoutOptions named)
  | packAccess {named : String} {cause : Failure} : alphabet.Spells named → Reason alphabet cause →
    Told alphabet (.packAccess named cause)
  | packForm {named : String} {cause : Failure} : alphabet.Spells named → Reason alphabet cause →
    Told alphabet (.packForm named cause)

variable {alphabet : Alphabet} {failure : Failure}

theorem Reason.spells (reason : Reason alphabet failure) :
    ∀ subject ∈ failure.subjects, alphabet.Spells subject := by
  cases reason with
  | shape located _ => simpa [subjects] using located
  | _ => simp [subjects]

theorem OfScript.spells (faulty : OfScript alphabet failure) :
    ∀ subject ∈ failure.subjects, alphabet.Spells subject := by
  cases faulty with
  | value _ spelled => simpa [subjects] using spelled
  | wrapped _ _ spelled => simpa [subjects] using spelled
  | unreadable spelled reason => exact List.forall_mem_cons.mpr ⟨spelled, reason.spells⟩

/-- What a reported failure shows is spelled as the texts that it is about. -/
theorem Told.spells (told : Told alphabet failure) :
    ∀ subject ∈ failure.subjects, alphabet.Spells subject := by
  cases told with
  | script faulty => exact faulty.spells
  | combination faulty => exact faulty.spells
  | unreadableScript spelled inside =>
    have below := inside.elim Reason.spells OfScript.spells
    exact List.forall_mem_cons.mpr ⟨spelled, List.forall_mem_cons.mpr ⟨spelled, below⟩⟩
  | packAccess spelled reason | packForm spelled reason =>
    exact List.forall_mem_cons.mpr ⟨spelled, reason.spells⟩
  | missing spelled | notAFile spelled | packMissing spelled | packIsDirectory spelled
  | packWithoutOptions spelled => simpa [subjects] using spelled

end Failure

/-! ## What the wording shows -/

open Text

variable {alphabet : Alphabet} {failure : Failure}

theorem ScriptFault.shows_message {fault : ScriptFault} (own : fault.showsValue = true)
    (value : String) (cause : Option String) : Shows [value] (fault.message value cause) := by
  have between {before after : String} (plain : before.toList.all isPlain = true)
      (plain' : after.toList.all isPlain = true) : Shows [value] (before ++ value ++ after) :=
    ((shows_words plain).append (shows_self value)).append (shows_words plain')
  -- Only the definition is opened: the words around the value have to stay as they are.
  cases fault with
  | identifierCharacters | identifierColons | unknownDropType | unsafeFlag | unknownExtension
  | circularExtension =>
    delta message
    exact between (by decide) (by decide)
  | dropLayout =>
    delta message
    dsimp only
    rw [String.append_assoc]
    exact between (by decide) (by decide)
  | general | identifier | dropType | extension | unreadableExtension => cases own

theorem shows_bracketed {named text : String} {parts : List String} (inside : Shows parts text) :
    Shows (named :: parts) (Failure.bracketed named text) :=
  (((shows_words (by decide)).append (shows_self named)).append (shows_words (by decide))).append
    inside

theorem shows_numbered {text : String} {parts : List String} (index : Nat)
    (inside : Shows parts text) : Shows parts (Failure.numbered (toString index) text) :=
  (((shows_words (by decide)).append (shows_nil (Alphabet.spells_toString index))).append
    (shows_words (by decide))).append inside

namespace Failure

section

variable {json os : String} (oneJson : SingleLine json) (oneOs : SingleLine os)

include oneJson oneOs

theorem Reason.shows_wording (reason : Reason alphabet failure) :
    Shows failure.subjects (failure.wording json os) := by
  cases reason with
  | system => exact shows_nil oneOs
  | nullCharacter =>
    have words : wording json os .nullCharacter = message .nullCharacter := rfl
    rw [words]
    exact shows_words (by decide)
  | notJson => exact shows_nil oneJson
  | shape _ plain =>
    exact ((shows_self _).append (shows_words (by decide))).append (shows_words plain)

theorem OfScript.shows_wording (faulty : OfScript alphabet failure) :
    Shows failure.subjects (failure.wording json os) := by
  cases faulty with
  | value own _ => exact ScriptFault.shows_message own _ none
  | @wrapped outer inner text taken own _ =>
    -- The outer fault lists the text once more, and adds no words.
    have inside : Shows [text] (inner.message text none) := ScriptFault.shows_message own _ none
    have words : (Failure.scriptBy outer (.str text) (.script inner (.str text))).wording json os =
        inner.message text none := by
      cases outer <;> first | rfl | cases taken
    rw [words]
    exact inside.cons_of_mem List.mem_cons_self
  | @unreadable text cause _ reason =>
    exact (((shows_words (by decide)).append (shows_self text)).append
      (shows_words (by decide))).append (reason.shows_wording oneJson oneOs)

/-- The wording of a reported failure names all that the failure is about, and breaks no line. -/
theorem Told.shows_wording (told : Told alphabet failure) :
    Shows failure.subjects (failure.wording json os) := by
  have around (named : String) {after : String} (plain : after.toList.all isPlain = true) :
      Shows [named] ("'" ++ named ++ after) :=
    ((shows_words (by decide)).append (shows_self named)).append (shows_words plain)
  cases told with
  | script faulty => exact faulty.shows_wording oneJson oneOs
  | @combination index cause faulty =>
    exact shows_numbered index (faulty.shows_wording oneJson oneOs)
  | @unreadableScript fault path cause _ inside =>
    -- The path is listed by both layers, and the outer one has no words of its own.
    have below : Shows cause.subjects (cause.wording json os) :=
      inside.elim (Reason.shows_wording oneJson oneOs) (OfScript.shows_wording oneJson oneOs)
    exact (shows_bracketed below).cons_of_mem List.mem_cons_self
  | packAccess _ reason | packForm _ reason =>
    exact shows_bracketed (reason.shows_wording oneJson oneOs)
  | @missing named _ | @notAFile named _ | @packMissing named _ | @packIsDirectory named _
  | @packWithoutOptions named _ => exact around named (by decide)

end

/-- What is reported is about something. -/
theorem Told.subjects_ne_nil (told : Told alphabet failure) : failure.subjects ≠ [] := by
  cases told with
  | script faulty | combination faulty => cases faulty <;> exact List.cons_ne_nil _ _
  | _ => exact List.cons_ne_nil _ _

end Failure

end LootScript
