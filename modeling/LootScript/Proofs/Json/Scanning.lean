import LootScript.Json.Printer
import LootScript.Json.Token

/-!
# Scanning what was printed

What the rest of a text is read as does not depend on what came before it, as long as it starts
between two tokens. So a printed text is scanned from its end: a blank adds nothing to the tokens of
what comes after it, and a mark, a quoted string or a word adds one. A word has to stand apart from
what comes after it.
-/
namespace LootScript

namespace Json

/-- Between two tokens, the rest of a text is read as these tokens. -/
def Scans (text : List Char) (tokens : List Token) : Prop :=
  ∀ before, (text.foldlM Scanner.step ⟨before, .between⟩ >>= Scanner.finish) =
    some (before.reverse ++ tokens)

theorem tokens?_of_scans {text : List Char} {tokens : List Token} (scans : Scans text tokens) :
    tokens? text = some tokens :=
  scans []

/-- What ends a word. -/
def endsWord (c : Char) : Bool := isBlank c || (punctuation? c).isSome

/-- What a word is made of. -/
def isLetter (c : Char) : Bool := !endsWord c && c ≠ '"'

/-- The text is at its end or goes on with a character that ends a word. -/
def StandsApart : List Char → Prop
  | [] => True
  | c :: _ => endsWord c = true

variable {text letters : List Char} {tokens : List Token} {c : Char}

theorem foldlM_of_step {σ α : Type} {step : σ → α → Option σ} {s s' : σ} {a : α} {as : List α}
    (stepped : step s a = some s') : (a :: as).foldlM step s = as.foldlM step s' := by
  rw [List.foldlM_cons, stepped]
  rfl

/-! ## Blanks and marks -/

theorem scans_nil : Scans [] [] := fun before => by
  simp [Scanner.finish]

theorem Scans.blank (blank : isBlank c = true) (rest : Scans text tokens) :
    Scans (c :: text) tokens := by
  intro before
  have skipped : Scanner.step ⟨before, .between⟩ c = some ⟨before, .between⟩ := by
    simp [Scanner.step, Scanner.outside, blank]
  rw [foldlM_of_step skipped]
  exact rest before

theorem Scans.blanks {blanks : List Char} (blank : ∀ c ∈ blanks, isBlank c = true)
    (rest : Scans text tokens) : Scans (blanks ++ text) tokens := by
  induction blanks with
  | nil => exact rest
  | cons c others ih =>
    obtain ⟨first, later⟩ := List.forall_mem_cons.mp blank
    exact (ih later).blank first

theorem Scanner.outside_of_mark {token : Token} (mark : punctuation? c = some token)
    (s : Scanner) : s.outside c = some (s.emit token) := by
  have unblank : isBlank c = false := by
    unfold punctuation? at mark
    split at mark <;> first | rfl | cases mark
  have unquoted : c ≠ '"' := by
    rintro rfl
    cases mark
  rw [outside, if_neg (by simp [unblank]), if_neg unquoted, mark]

theorem Scans.mark {token : Token} (mark : punctuation? c = some token)
    (rest : Scans text tokens) : Scans (c :: text) (token :: tokens) := by
  intro before
  have read : Scanner.step ⟨before, .between⟩ c = some ⟨token :: before, .between⟩ :=
    Scanner.outside_of_mark mark _
  rw [foldlM_of_step read]
  have onward := rest (token :: before)
  rwa [List.reverse_cons, List.append_assoc] at onward

/-! ## Words -/

theorem Scanner.step_letter (letter : isLetter c = true) (before : List Token) :
    step ⟨before, .between⟩ c = some ⟨before, .word [c]⟩ ∧
      ∀ letters, step ⟨before, .word letters⟩ c = some ⟨before, .word (c :: letters)⟩ := by
  simp only [isLetter, endsWord, Bool.and_eq_true, Bool.not_eq_true', Bool.or_eq_false_iff,
    decide_eq_true_eq] at letter
  obtain ⟨⟨unblank, unmarked⟩, unquoted⟩ := letter
  rw [Option.isSome_eq_false_iff, Option.isNone_iff_eq_none] at unmarked
  constructor
  · simp [step, outside, unblank, unquoted, unmarked]
  · intro letters
    simp [step, unblank, unmarked]

theorem Scanner.foldlM_letters (letter : ∀ c ∈ letters, isLetter c = true) (before : List Token)
    (read rest : List Char) :
    (letters ++ rest).foldlM step ⟨before, .word read⟩ =
      rest.foldlM step ⟨before, .word (letters.reverse ++ read)⟩ := by
  induction letters generalizing read with
  | nil => rfl
  | cons c others ih =>
    obtain ⟨first, later⟩ := List.forall_mem_cons.mp letter
    rw [List.cons_append, foldlM_of_step ((step_letter first before).2 read), ih later,
      List.reverse_cons, List.append_assoc]
    rfl

/-- A character that ends a word is read as it would be between two tokens. -/
theorem Scanner.step_of_endsWord (ends : endsWord c = true) {before : List Token} {value : Json}
    (word : word? letters.reverse = some value) :
    step ⟨before, .word letters⟩ c = step ⟨.scalar value :: before, .between⟩ c := by
  have closed : isBlank c ∨ (punctuation? c).isSome := by simpa [endsWord] using ends
  simp only [step, if_pos closed, word]
  rfl

theorem Scans.word {value : Json} (nonempty : letters ≠ [])
    (letter : ∀ c ∈ letters, isLetter c = true) (word : word? letters = some value)
    (apart : StandsApart text) (rest : Scans text tokens) :
    Scans (letters ++ text) (.scalar value :: tokens) := by
  intro before
  -- The first letter begins the word, and the others are added to it.
  obtain ⟨c, others, rfl⟩ := List.exists_cons_of_ne_nil nonempty
  obtain ⟨first, later⟩ := List.forall_mem_cons.mp letter
  have whole : word? (others.reverse ++ [c]).reverse = some value := by simpa using word
  have onward := rest (.scalar value :: before)
  rw [List.reverse_cons, List.append_assoc] at onward
  rw [List.cons_append, foldlM_of_step (Scanner.step_letter first before).1,
    Scanner.foldlM_letters later]
  cases text with
  | nil =>
    -- The end of the text ends the word, too.
    have settled : Scanner.finish ⟨before, .word (others.reverse ++ [c])⟩ =
        Scanner.finish ⟨.scalar value :: before, .between⟩ := by
      simp only [Scanner.finish, whole, Option.map_some]
    exact settled.trans onward
  | cons d text =>
    rw [List.foldlM_cons, Scanner.step_of_endsWord apart whole, ← List.foldlM_cons]
    exact onward

/-! ## Strings -/

theorem hexDigit?_hexDigit (n : Nat) : hexDigit? (hexDigit n) = some (n % 16) := by
  have digits : ∀ k < 16, hexDigit? (hexDigit k) = some k := by decide
  have reduced : hexDigit n = hexDigit (n % 16) := by
    rw [hexDigit, hexDigit, Nat.mod_mod]
  rw [reduced]
  exact digits _ (Nat.mod_lt _ (by decide))

/-- A control character is read from its code unit. -/
theorem Scanner.foldlM_codeUnit (control : c.toNat < 0x20) (before : List Token)
    (read rest : List Char) :
    ('\\' :: 'u' :: '0' :: '0' :: hexDigit (c.toNat / 16) :: hexDigit c.toNat :: rest).foldlM step
        ⟨before, .string read⟩ = rest.foldlM step ⟨before, .string (c :: read)⟩ := by
  have slash : step ⟨before, .string read⟩ '\\' = some ⟨before, .escape read⟩ := rfl
  have unit : step ⟨before, .escape read⟩ 'u' = some ⟨before, .unit read none []⟩ := rfl
  have digit {digits : List Nat} {d : Nat} {mark : Char} (hex : hexDigit? mark = some d)
      (few : digits.length < 3) : step ⟨before, .unit read none digits⟩ mark =
        some ⟨before, .unit read none (digits ++ [d])⟩ := by
    simp only [step, hex, if_pos few]
  have value : ([0, 0, c.toNat / 16 % 16] ++ [c.toNat % 16]).foldl (fun n d => 16 * n + d) 0 =
      c.toNat := by
    simp only [List.cons_append, List.nil_append, List.foldl_cons, List.foldl_nil]
    omega
  have last : step ⟨before, .unit read none [0, 0, c.toNat / 16 % 16]⟩ (hexDigit c.toNat) =
      some ⟨before, .string (c :: read)⟩ := by
    have high : isHighSurrogate c.toNat = false := by
      rw [isHighSurrogate, decide_eq_false_iff_not]
      omega
    have low : isLowSurrogate c.toNat = false := by
      rw [isLowSurrogate, decide_eq_false_iff_not]
      omega
    simp only [step, hexDigit?_hexDigit, value, codeUnit, high, low]
    simp
  have zero : hexDigit? '0' = some 0 := rfl
  -- Only with the fourth digit the unit is complete.
  rw [foldlM_of_step slash, foldlM_of_step unit, foldlM_of_step (digit zero (by decide)),
    foldlM_of_step (digit zero (by decide)),
    foldlM_of_step (digit (hexDigit?_hexDigit _) (by decide))]
  exact foldlM_of_step last

/-- An escaped character is read as the character. -/
theorem Scanner.foldlM_escape (c : Char) (before : List Token) (read rest : List Char) :
    (escape c ++ rest).foldlM step ⟨before, .string read⟩ =
      rest.foldlM step ⟨before, .string (c :: read)⟩ := by
  unfold escape
  split
  case h_8 =>
    split
    · next control => exact foldlM_codeUnit control before read rest
    · next quote backslash _ _ _ _ _ printable =>
      have plain : step ⟨before, .string read⟩ c = some ⟨before, .string (c :: read)⟩ := by
        simp only [step, if_neg quote, if_neg backslash, if_neg printable]
      exact foldlM_of_step plain
  all_goals simp [step, escape?]

/-- A quoted string is read character by character, escaped or not. -/
theorem Scans.quoted {string : String} (rest : Scans text tokens) :
    Scans ((quote string).toList ++ text) (.scalar (.str string) :: tokens) := by
  have letters (chars : List Char) (before : List Token) (read rest : List Char) :
      (chars.flatMap escape ++ rest).foldlM Scanner.step ⟨before, .string read⟩ =
        rest.foldlM Scanner.step ⟨before, .string (chars.reverse ++ read)⟩ := by
    induction chars generalizing read with
    | nil => rfl
    | cons c others ih =>
      rw [List.flatMap_cons, List.append_assoc, Scanner.foldlM_escape, ih, List.reverse_cons,
        List.append_assoc]
      rfl
  intro before
  have opened : Scanner.step ⟨before, .between⟩ '"' = some ⟨before, .string []⟩ := rfl
  have closed : Scanner.step ⟨before, .string (string.toList.reverse ++ [])⟩ '"' =
      some ⟨.scalar (.str string) :: before, .between⟩ := by
    simp [Scanner.step, Scanner.emit]
  have onward := rest (.scalar (.str string) :: before)
  rw [List.reverse_cons, List.append_assoc] at onward
  rw [quote, String.toList_ofList, List.cons_append, List.append_assoc,
    foldlM_of_step opened, letters, List.singleton_append,
    foldlM_of_step closed]
  exact onward

end Json

end LootScript
