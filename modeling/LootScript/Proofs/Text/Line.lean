import Mathlib.Data.List.Basic
import Mathlib.Order.Basic

/-!
# Lines of text

A text is a single line if it has none of the characters at which texts are split into lines. What
is said of all texts without such characters holds for other classes of characters as well, as long
as plain characters belong to them; these classes are the alphabets.
-/
namespace LootScript

namespace Text

/-- A visible character of ASCII, or the blank. -/
def isPlain (c : Char) : Bool := ' '.toNat ≤ c.toNat && c.toNat ≤ '~'.toNat

theorem isPlain_of_between {least greatest c : Char} (low : least ≤ c) (high : c ≤ greatest)
    (plain : ' '.toNat ≤ least.toNat ∧ greatest.toNat ≤ '~'.toNat) : isPlain c = true := by
  have above : least.toNat ≤ c.toNat := UInt32.le_iff_toNat_le.mp low
  have below : c.toNat ≤ greatest.toNat := UInt32.le_iff_toNat_le.mp high
  simp only [isPlain, Bool.and_eq_true, decide_eq_true_eq]
  omega

/-- The end of a line, for anyone who may read the text. -/
def isLineBreak (c : Char) : Bool :=
  c ∈ ['\n', '\x0b', '\x0c', '\r', '\x1c', '\x1d', '\x1e', '\x85', '\u2028', '\u2029']

/-- One text stands inside of another one. -/
def Occurs (part text : String) : Prop := part.toList <:+: text.toList

theorem occurs_refl (text : String) : Occurs text text := List.infix_rfl

theorem Occurs.append_left {part text : String} (occurs : Occurs part text) (before : String) :
    Occurs part (before ++ text) := by
  rw [Occurs, String.toList_append]
  exact occurs.trans (List.suffix_append _ _).isInfix

theorem Occurs.append_right {part text : String} (occurs : Occurs part text) (after : String) :
    Occurs part (text ++ after) := by
  rw [Occurs, String.toList_append]
  exact occurs.trans (List.prefix_append _ _).isInfix

end Text

/-- A class of characters that has the plain ones. -/
structure Alphabet where
  contains : Char → Prop
  plain : ∀ c, Text.isPlain c = true → contains c

namespace Alphabet

def all : Alphabet := ⟨fun _ => True, fun _ _ => trivial⟩

/-- The characters that break no line. -/
def unbroken : Alphabet where
  contains c := Text.isLineBreak c = false
  plain c plain := by
    by_contra broken
    simp only [Text.isLineBreak, Bool.not_eq_false, decide_eq_true_eq, List.mem_cons,
      List.not_mem_nil, or_false] at broken
    rcases broken with rfl | rfl | rfl | rfl | rfl | rfl | rfl | rfl | rfl | rfl <;> cases plain

variable {alphabet : Alphabet} {a b text : String}

/-- The text is made of characters of the alphabet. -/
def Spells (alphabet : Alphabet) (text : String) : Prop := ∀ c ∈ text.toList, alphabet.contains c

theorem spells_all (text : String) : all.Spells text := fun _ _ => trivial

@[simp]
theorem spells_append : alphabet.Spells (a ++ b) ↔ alphabet.Spells a ∧ alphabet.Spells b := by
  simp only [Spells, String.toList_append, List.forall_mem_append]

theorem spells_of_plain (plain : ∀ c ∈ text.toList, Text.isPlain c = true) :
    alphabet.Spells text :=
  fun c member => alphabet.plain c (plain c member)

/-- The words of a message may be checked one by one. -/
theorem spells_of_all (plain : text.toList.all Text.isPlain = true) : alphabet.Spells text :=
  spells_of_plain (List.all_eq_true.mp plain)

theorem Spells.append (spelled : alphabet.Spells a) (spelled' : alphabet.Spells b) :
    alphabet.Spells (a ++ b) :=
  spells_append.mpr ⟨spelled, spelled'⟩

theorem Spells.words (spelled : alphabet.Spells a) (plain : b.toList.all Text.isPlain = true) :
    alphabet.Spells (a ++ b) :=
  spelled.append (spells_of_all plain)

theorem spells_toString (n : Nat) : alphabet.Spells (toString n) := by
  refine spells_of_plain fun c member => ?_
  -- That the characters are digits is known of the list of digits, not of the text.
  have written : (toString n).toList = Nat.toDigits 10 n := by
    simp [Nat.repr_eq_ofList_toDigits, ToString.toString]
  rw [written] at member
  have digit : c.isDigit = true := Nat.isDigit_of_mem_toDigits (by decide) (by decide) member
  simp only [Char.isDigit, Bool.and_eq_true, decide_eq_true_eq] at digit
  exact Text.isPlain_of_between digit.1 digit.2 (by decide)

end Alphabet

namespace Text

/-- The text has no line break. -/
def SingleLine (text : String) : Prop := Alphabet.unbroken.Spells text

theorem singleLine_iff {text : String} :
    SingleLine text ↔ text.toList.all (fun c => !isLineBreak c) = true := by
  simp [SingleLine, Alphabet.Spells, Alphabet.unbroken]

instance (text : String) : Decidable (SingleLine text) := decidable_of_iff' _ singleLine_iff

/-! ## Texts made of parts -/

/-- All the parts stand in the text, and nothing but them can break the line. -/
structure Shows (parts : List String) (text : String) : Prop where
  occurs : ∀ part ∈ parts, Occurs part text
  line : SingleLine text ↔ ∀ part ∈ parts, SingleLine part

variable {parts parts' : List String} {a b text : String}

theorem shows_self (text : String) : Shows [text] text where
  occurs := by simp [occurs_refl]
  line := by simp

/-- What breaks no line may stand anywhere. -/
theorem shows_nil (single : SingleLine text) : Shows [] text where
  occurs := List.forall_mem_nil _
  line := by simp [single]

theorem shows_words (plain : text.toList.all isPlain = true) : Shows [] text :=
  shows_nil (Alphabet.spells_of_all plain)

theorem Shows.append (first : Shows parts a) (second : Shows parts' b) :
    Shows (parts ++ parts') (a ++ b) where
  occurs := by
    intro part member
    rcases List.mem_append.mp member with here | there
    · exact (first.occurs part here).append_right b
    · exact (second.occurs part there).append_left a
  line := by
    rw [List.forall_mem_append, ← first.line, ← second.line]
    exact Alphabet.spells_append

/-- A part may be listed again. -/
theorem Shows.cons_of_mem {part : String} (shows' : Shows parts text) (member : part ∈ parts) :
    Shows (part :: parts) text where
  occurs := List.forall_mem_cons.mpr ⟨shows'.occurs part member, shows'.occurs⟩
  line := by
    rw [shows'.line, List.forall_mem_cons]
    exact ⟨fun single => ⟨single part member, single⟩, And.right⟩

end Text

end LootScript
