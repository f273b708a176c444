import LootScript.Identifier

/-!
# Identifiers and their texts

An identifier is well formed if its parts are made of the allowed characters and neither of them has
a colon. These are exactly the identifiers that some text stands for, and each of them is read back
from its own text; so different well-formed identifiers are written differently. Which texts are
read, and for what the others are refused, depends on their characters and on the number of colons.
-/
namespace LootScript

namespace Identifier

/-- The characters of either part of an identifier. -/
def isPart (c : Char) : Bool := isAllowed c && c ≠ ':'

structure WellFormed (id : Identifier) : Prop where
  scope : ∀ c ∈ id.scope.toList, isPart c = true
  name : ∀ c ∈ id.name.toList, isPart c = true

theorem isPart_of_mem_defaultScope : ∀ c ∈ defaultScope.toList, isPart c = true :=
  List.all_eq_true.mp (by decide)

theorem toList_text (id : Identifier) :
    id.text.toList = id.scope.toList ++ ':' :: id.name.toList := by
  simp [text]

/-! ## Reading what was written -/

theorem ofColon_append {scope : List Char} (colonless : ':' ∉ scope) (name : List Char) :
    ofColon (scope ++ ':' :: name) = ⟨String.ofList scope, String.ofList name⟩ := by
  have before : ∀ c ∈ scope, decide (c ≠ ':') = true := by
    intro c member
    rw [decide_eq_true_eq]
    rintro rfl
    exact colonless member
  rw [ofColon, List.takeWhile_append_of_pos before, List.dropWhile_append_of_pos before]
  simp

theorem colonless_of_parts {chars : List Char} (plain : ∀ c ∈ chars, isPart c = true) :
    ':' ∉ chars := by
  intro colon
  have part := plain ':' colon
  revert part
  decide

theorem parse_text {id : Identifier} (formed : id.WellFormed) : parse id.text = .ok id := by
  have nonempty : id.text.isEmpty = false := by
    rw [String.isEmpty_eq_false_iff]
    intro blank
    have chars := toList_text id
    rw [blank] at chars
    simp at chars
  have allowed : id.text.toList.all isAllowed = true := by
    rw [toList_text, List.all_eq_true]
    intro c member
    rcases List.mem_append.mp member with scope | later
    · exact (Bool.and_eq_true _ _ ▸ formed.scope c scope).1
    · rcases List.mem_cons.mp later with rfl | name
      · decide
      · exact (Bool.and_eq_true _ _ ▸ formed.name c name).1
  have colonless := colonless_of_parts formed.scope
  have once : id.text.toList.count ':' = 1 := by
    rw [toList_text, List.count_append, List.count_cons_self,
      List.count_eq_zero_of_not_mem colonless,
      List.count_eq_zero_of_not_mem (colonless_of_parts formed.name)]
  rw [parse, if_neg (by simp [nonempty, allowed]), once, toList_text, ofColon_append colonless]
  simp

/-- A name alone is read with the scope left out. -/
theorem parse_of_parts {text : String} (nonempty : text ≠ "")
    (plain : ∀ c ∈ text.toList, isPart c = true) : parse text = .ok ⟨defaultScope, text⟩ := by
  have filled : text.isEmpty = false := String.isEmpty_eq_false_iff.mpr nonempty
  have allowed : text.toList.all isAllowed = true := by
    rw [List.all_eq_true]
    intro c member
    exact (Bool.and_eq_true _ _ ▸ plain c member).1
  rw [parse, if_neg (by simp [filled, allowed]),
    List.count_eq_zero_of_not_mem (colonless_of_parts plain)]
  rfl

/-! ## What is read is well formed -/

private theorem isPart_of_notMem {chars part : List Char} (allowed : chars.all isAllowed = true)
    (inside : part ⊆ chars) (colonless : ':' ∉ part) : ∀ c ∈ part, isPart c = true := by
  intro c member
  rw [isPart, Bool.and_eq_true]
  refine ⟨List.all_eq_true.mp allowed c (inside member), ?_⟩
  rw [decide_eq_true_eq]
  rintro rfl
  exact colonless member

/-- A single colon leaves none for either side of it. -/
theorem exists_sides_of_colon {chars : List Char} (once : chars.count ':' = 1) :
    ∃ scope name, chars = scope ++ ':' :: name ∧ ':' ∉ scope ∧ ':' ∉ name := by
  have present : ':' ∈ chars := List.count_pos_iff.mp (by rw [once]; exact Nat.one_pos)
  obtain ⟨scope, name, rfl⟩ := List.append_of_mem present
  rw [List.count_append, List.count_cons_self] at once
  exact ⟨scope, name, rfl, List.count_eq_zero.mp (by omega), List.count_eq_zero.mp (by omega)⟩

theorem wellFormed_of_parse {text : String} {id : Identifier} (read : parse text = .ok id) :
    id.WellFormed := by
  unfold parse at read
  split at read
  · cases read
  · next readable =>
    have allowed : text.toList.all isAllowed = true := by
      rw [not_or] at readable
      simpa using readable.2
    split at read
    · next colonless =>
      cases read
      rw [List.count_eq_zero] at colonless
      exact ⟨isPart_of_mem_defaultScope, isPart_of_notMem allowed (List.Subset.refl _) colonless⟩
    · next once =>
      cases read
      obtain ⟨scope, name, split, colonless, colonless'⟩ := exists_sides_of_colon once
      rw [split] at allowed ⊢
      rw [ofColon_append colonless]
      have plainScope := isPart_of_notMem allowed (List.subset_append_left scope _) colonless
      have plainName := isPart_of_notMem allowed
        (List.Subset.trans (List.subset_cons_self ':' name) (List.subset_append_right scope _))
        colonless'
      exact ⟨by simpa using plainScope, by simpa using plainName⟩
    · cases read

/-- A text that is no identifier is refused as it is, for its characters or for its colons. -/
theorem eq_of_parse_eq_error {text : String} {failure : Failure}
    (refused : parse text = .error failure) :
    failure = .script .identifierCharacters (.str text) ∨
      failure = .script .identifierColons (.str text) := by
  unfold parse at refused
  split at refused
  · cases refused
    exact .inl rfl
  · split at refused <;> cases refused
    exact .inr rfl

/-- Different well-formed identifiers are written differently. -/
theorem text_injective_of_wellFormed {a b : Identifier} (formed : a.WellFormed)
    (formed' : b.WellFormed) (same : a.text = b.text) : a = b := by
  have read := parse_text formed
  rw [same, parse_text formed'] at read
  exact (Except.ok.inj read).symm

/-! ## The grammar -/

/-- The characters of written identifiers, one by one. -/
def alphabet : List Char :=
  ['a', 'b', 'c', 'd', 'e', 'f', 'g', 'h', 'i', 'j', 'k', 'l', 'm',
   'n', 'o', 'p', 'q', 'r', 's', 't', 'u', 'v', 'w', 'x', 'y', 'z',
   '0', '1', '2', '3', '4', '5', '6', '7', '8', '9', ':', '/', '_', '-']

theorem isAllowed_iff_mem_alphabet (c : Char) : isAllowed c = true ↔ c ∈ alphabet := by
  constructor
  · intro allowed
    -- The ranges of letters and digits are left to a table of the first 128 characters.
    have table : ∀ n < 128, isAllowed (Char.ofNat n) = true → Char.ofNat n ∈ alphabet := by decide
    have small : c.toNat < 128 := by
      simp only [isAllowed, Bool.or_eq_true, decide_eq_true_eq, beq_iff_eq] at allowed
      rcases allowed with ((((letter | digit) | rfl) | rfl) | rfl) | rfl
      · exact Nat.lt_of_le_of_lt letter.2 (by decide)
      · exact Nat.lt_of_le_of_lt digit.2 (by decide)
      all_goals decide
    have found := table c.toNat small
    rw [Char.ofNat_toNat] at found
    exact found allowed
  · have all : ∀ c ∈ alphabet, isAllowed c = true := List.all_eq_true.mp (by decide)
    exact all c

/-- A text that is no identifier for its characters alone. -/
def Foreign (text : String) : Prop := text = "" ∨ ∃ c ∈ text.toList, c ∉ alphabet

theorem foreign_iff (text : String) :
    Foreign text ↔ (text.isEmpty ∨ !text.toList.all isAllowed) := by
  simp [Foreign, ← isAllowed_iff_mem_alphabet]

/-- Reading goes one of three ways, and the characters are looked at before the colons. -/
theorem parse_cases (text : String) :
    (Foreign text ∧ parse text = .error (.script .identifierCharacters (.str text))) ∨
    (¬Foreign text ∧ 2 ≤ text.toList.count ':' ∧
      parse text = .error (.script .identifierColons (.str text))) ∨
    (¬Foreign text ∧ text.toList.count ':' ≤ 1 ∧ ∃ id, parse text = .ok id) := by
  by_cases foreign : Foreign text
  · left
    exact ⟨foreign, by rw [parse, if_pos ((foreign_iff text).mp foreign)]⟩
  · right
    rw [parse, if_neg (mt (foreign_iff text).mpr foreign)]
    match text.toList.count ':' with
    | 0 => exact .inr ⟨foreign, by omega, _, rfl⟩
    | 1 => exact .inr ⟨foreign, by omega, _, rfl⟩
    | n + 2 => exact .inl ⟨foreign, by omega, rfl⟩

theorem parse_eq_characters_iff (text : String) :
    parse text = .error (.script .identifierCharacters (.str text)) ↔ Foreign text := by
  obtain ⟨foreign, refused⟩ | ⟨plain, _, refused⟩ | ⟨plain, _, id, read⟩ := parse_cases text
  · simp [foreign, refused]
  · simp [plain, refused]
  · simp [plain, read]

theorem parse_eq_colons_iff (text : String) :
    parse text = .error (.script .identifierColons (.str text)) ↔
      ¬Foreign text ∧ 2 ≤ text.toList.count ':' := by
  obtain ⟨foreign, refused⟩ | ⟨plain, several, refused⟩ | ⟨plain, few, id, read⟩ :=
    parse_cases text
  · simp [foreign, refused]
  · simp [plain, refused, several]
  · simp [plain, read, Nat.lt_succ_of_le few]

theorem exists_parse_iff (text : String) :
    (∃ id, parse text = .ok id) ↔ ¬Foreign text ∧ text.toList.count ':' ≤ 1 := by
  obtain ⟨foreign, refused⟩ | ⟨plain, several, refused⟩ | ⟨plain, few, id, read⟩ :=
    parse_cases text
  · simp [foreign, refused]
  · simp [refused, Nat.lt_of_succ_le several]
  · simp [plain, read, few]

/-- An identifier is written as it was read, with the default scope if there was none. -/
theorem text_of_parse {text : String} {id : Identifier} (read : parse text = .ok id) :
    id.text = if ':' ∈ text.toList then text else defaultScope ++ ":" ++ text := by
  -- Writing puts the colon back to where it was, or behind the scope that was left out.
  unfold parse at read
  split at read
  · cases read
  · split at read
    · next none =>
      cases read
      rw [if_neg (List.count_eq_zero.mp none)]
      rfl
    · next once =>
      cases read
      obtain ⟨scope, name, split, colonless, _⟩ := exists_sides_of_colon once
      apply String.toList_injective
      rw [if_pos (by simp [split]), toList_text, split, ofColon_append colonless]
      simp
    · cases read

/--
A text that is empty or has a character outside of the alphabet is refused for its characters,
whatever its colons, and any other one for its colons if it has at least two. All the others are
identifiers. An identifier that was read is its text, where the default scope may have been left
out; its parts have no colon, and it is read back from its own text. Two of them are the same
exactly if they are written in the same way.
-/
theorem parse_exact (text : String) :
    (parse text = .error (.script .identifierCharacters (.str text)) ↔
      text = "" ∨ ∃ c ∈ text.toList, c ∉ alphabet) ∧
    (parse text = .error (.script .identifierColons (.str text)) ↔
      ¬(text = "" ∨ ∃ c ∈ text.toList, c ∉ alphabet) ∧ 2 ≤ text.toList.count ':') ∧
    ((∃ id, parse text = .ok id) ↔
      ¬(text = "" ∨ ∃ c ∈ text.toList, c ∉ alphabet) ∧ text.toList.count ':' ≤ 1) ∧
    ∀ id, parse text = .ok id →
      id.text = (if ':' ∈ text.toList then text else defaultScope ++ ":" ++ text) ∧
      ':' ∉ id.scope.toList ∧ ':' ∉ id.name.toList ∧ parse id.text = .ok id ∧
      ∀ other id', parse other = .ok id' → (id = id' ↔ id.text = id'.text) := by
  refine ⟨parse_eq_characters_iff text, parse_eq_colons_iff text, exists_parse_iff text, ?_⟩
  intro id read
  have formed := wellFormed_of_parse read
  refine ⟨text_of_parse read, colonless_of_parts formed.scope, colonless_of_parts formed.name,
    parse_text formed, ?_⟩
  intro other id' read'
  constructor
  · rintro rfl
    rfl
  · exact text_injective_of_wellFormed formed (wellFormed_of_parse read')

/-- A colon alone stands between two empty parts, and no other identifier is written like that. -/
theorem parse_exact_of_colon :
    parse ":" = .ok ⟨"", ""⟩ ∧ parse (text ⟨"", ""⟩) = .ok ⟨"", ""⟩ ∧
      ∀ other id', parse other = .ok id' → ((⟨"", ""⟩ : Identifier) = id' ↔ ":" = id'.text) := by
  have read : parse ":" = .ok ⟨"", ""⟩ := rfl
  obtain ⟨_, _, _, back, alone⟩ := (parse_exact ":").2.2.2 ⟨"", ""⟩ read
  exact ⟨read, back, alone⟩

end Identifier

end LootScript
