import LootScript.Json.Reader
import LootScript.Proofs.OrderedMap

/-!
# Values without double keys

Whatever a text says, no object in the value that is read from it has two fields of one key: the
reader writes every field over an earlier one of its key. That holds for the containers that are
still open while the text is read, too.
-/
namespace LootScript

namespace Json

mutual

/-- No object in the value has two fields of one key. -/
def Distinct : Json → Prop
  | .null | .bool _ | .int _ | .double _ | .str _ => True
  | .arr items => DistinctItems items
  | .obj fields => (fields.map Prod.fst).Nodup ∧ DistinctFields fields

def DistinctItems : List Json → Prop
  | [] => True
  | item :: rest => item.Distinct ∧ DistinctItems rest

def DistinctFields : List (String × Json) → Prop
  | [] => True
  | (_, value) :: rest => value.Distinct ∧ DistinctFields rest

end

mutual

def decDistinct : (value : Json) → Decidable value.Distinct
  | .null | .bool _ | .int _ | .double _ | .str _ => isTrue trivial
  | .arr items => decDistinctItems items
  | .obj fields =>
    let _ := decDistinctFields fields
    inferInstanceAs (Decidable ((fields.map Prod.fst).Nodup ∧ DistinctFields fields))

def decDistinctItems : (items : List Json) → Decidable (DistinctItems items)
  | [] => isTrue trivial
  | item :: rest =>
    let _ := decDistinct item
    let _ := decDistinctItems rest
    inferInstanceAs (Decidable (item.Distinct ∧ DistinctItems rest))

def decDistinctFields : (fields : List (String × Json)) → Decidable (DistinctFields fields)
  | [] => isTrue trivial
  | (_, value) :: rest =>
    let _ := decDistinct value
    let _ := decDistinctFields rest
    inferInstanceAs (Decidable (value.Distinct ∧ DistinctFields rest))

end

instance : DecidablePred Distinct := decDistinct

theorem distinctItems_iff {items : List Json} :
    DistinctItems items ↔ ∀ item ∈ items, item.Distinct := by
  induction items with
  | nil => simp [DistinctItems]
  | cons item rest ih => simp [DistinctItems, ih]

theorem distinctFields_iff {fields : List (String × Json)} :
    DistinctFields fields ↔ ∀ field ∈ fields, field.2.Distinct := by
  induction fields with
  | nil => simp [DistinctFields]
  | cons field rest ih => simp [DistinctFields, ih]

theorem DistinctFields.insertEntry {key : String} {value : Json} {fields : List (String × Json)}
    (distinct : DistinctFields fields) (written : value.Distinct) :
    DistinctFields (OrderedMap.insertEntry key value fields) := by
  rw [distinctFields_iff] at distinct ⊢
  intro field mem
  obtain rfl | old := OrderedMap.mem_insertEntry mem
  · exact written
  · exact distinct field old

/-- What every step keeps, a whole run keeps. -/
private theorem foldlM_keeps {σ α : Type} {step : σ → α → Option σ} {keeps : σ → Prop}
    {fits : α → Prop} (one : ∀ s a s', fits a → step s a = some s' → keeps s → keeps s')
    {as : List α} (all : ∀ a ∈ as, fits a) {s s' : σ} (run : as.foldlM step s = some s')
    (start : keeps s) : keeps s' := by
  induction as generalizing s with
  | nil =>
    cases run
    exact start
  | cons a as ih =>
    obtain ⟨first, later⟩ := List.forall_mem_cons.mp all
    rw [List.foldlM_cons] at run
    obtain ⟨next, stepped, run⟩ := Option.bind_eq_some_iff.mp run
    exact ih later run (one s a next first stepped start)

/-! ## Tokens -/

def Token.Distinct : Token → Prop
  | .scalar value => value.Distinct
  | _ => True

theorem distinct_of_ofInteger? {n : Int} {value : Json} (read : ofInteger? n = some value) :
    value.Distinct := by
  rw [ofInteger?] at read
  split at read
  · cases read
    trivial
  · obtain ⟨d, -, rfl⟩ := Option.map_eq_some_iff.mp read
    trivial

theorem distinct_of_unsignedNumber? {negative : Bool} {numeral : List Char} {value : Json}
    (read : unsignedNumber? negative numeral = some value) : value.Distinct := by
  simp only [unsignedNumber?] at read
  split at read
  · cases read
  · split at read
    · exact distinct_of_ofInteger? read
    · obtain ⟨⟨fraction, rest⟩, -, read⟩ := Option.bind_eq_some_iff.mp read
      obtain ⟨exponent, -, read⟩ := Option.bind_eq_some_iff.mp read
      obtain ⟨d, -, read⟩ := Option.bind_eq_some_iff.mp read
      cases read
      trivial

theorem distinct_of_word? {letters : List Char} {value : Json}
    (read : word? letters = some value) : value.Distinct := by
  unfold word? at read
  split at read
  · cases read
    trivial
  · cases read
    trivial
  · cases read
    trivial
  · exact distinct_of_unsignedNumber? read
  · exact distinct_of_unsignedNumber? read

namespace Scanner

def Distinct (s : Scanner) : Prop := ∀ token ∈ s.tokens, token.Distinct

variable {s s' : Scanner} {c : Char}

theorem Distinct.emit (distinct : s.Distinct) (token : Token) (read : token.Distinct) :
    (s.emit token).Distinct :=
  List.forall_mem_cons.mpr ⟨read, distinct⟩

theorem Distinct.outside (distinct : s.Distinct) (stepped : s.outside c = some s') :
    s'.Distinct := by
  rw [Scanner.outside] at stepped
  split at stepped
  · cases stepped
    exact distinct
  · split at stepped
    · cases stepped
      exact distinct
    · split at stepped
      · next token mark =>
        cases stepped
        refine distinct.emit token ?_
        unfold punctuation? at mark
        split at mark <;> cases mark <;> trivial
      · cases stepped
        exact distinct

theorem tokens_codeUnit {text : List Char} {high : Option Nat} {unit : Nat}
    (stepped : s.codeUnit text high unit = some s') : s'.tokens = s.tokens := by
  unfold codeUnit at stepped
  repeat' split at stepped
  all_goals cases stepped
  all_goals rfl

theorem Distinct.step (distinct : s.Distinct) (stepped : s.step c = some s') : s'.Distinct := by
  have unread (tokens : s'.tokens = s.tokens) : s'.Distinct := by
    rwa [Scanner.Distinct, tokens]
  unfold Scanner.step at stepped
  split at stepped
  case h_1 => exact distinct.outside stepped
  case h_2 =>
    split at stepped
    · obtain ⟨value, word, stepped⟩ := Option.bind_eq_some_iff.mp stepped
      exact (distinct.emit (.scalar value) (distinct_of_word? word)).outside stepped
    · cases stepped
      exact unread rfl
  case h_3 =>
    split at stepped
    · cases stepped
      exact distinct.emit _ trivial
    · repeat' split at stepped
      all_goals cases stepped
      all_goals exact unread rfl
  case h_4 =>
    split at stepped
    · cases stepped
      exact unread rfl
    · obtain ⟨char, -, rfl⟩ := Option.map_eq_some_iff.mp stepped
      exact unread rfl
  case h_5 =>
    split at stepped
    · cases stepped
    · split at stepped
      · cases stepped
        exact unread rfl
      · exact unread (tokens_codeUnit stepped)
  case h_6 =>
    split at stepped <;> cases stepped
    exact unread rfl
  case h_7 =>
    split at stepped <;> cases stepped
    exact unread rfl

theorem Distinct.finish {tokens : List Token} (distinct : s.Distinct)
    (finished : s.finish = some tokens) : ∀ token ∈ tokens, token.Distinct := by
  unfold Scanner.finish at finished
  split at finished
  · cases finished
    exact fun token mem => distinct token (List.mem_reverse.mp mem)
  · obtain ⟨value, word, rfl⟩ := Option.map_eq_some_iff.mp finished
    have whole := distinct.emit (.scalar value) (distinct_of_word? word)
    exact fun token mem => whole token (List.mem_reverse.mp mem)
  · cases finished

end Scanner

theorem distinct_of_tokens? {text : List Char} {tokens : List Token}
    (scanned : tokens? text = some tokens) : ∀ token ∈ tokens, token.Distinct := by
  obtain ⟨s, run, finished⟩ := Option.bind_eq_some_iff.mp scanned
  have distinct : s.Distinct :=
    foldlM_keeps (fun _ _ _ _ stepped distinct => Scanner.Distinct.step distinct stepped)
      (fun _ _ => trivial) run (List.forall_mem_nil _)
  exact distinct.finish finished

/-! ## The reader -/

def Frame.Distinct : Frame → Prop
  | .array items => DistinctItems items
  | .object fields _ => (fields.map Prod.fst).Nodup ∧ DistinctFields fields

namespace Reader

/-- All that has been read so far is free of double keys. -/
def Distinct : Reader → Prop
  | .atValue stack | .atFirstItem stack | .atFirstKey stack => ∀ frame ∈ stack, frame.Distinct
  | .atKey fields stack | .atColon fields _ stack | .afterField fields stack =>
    ((fields.map Prod.fst).Nodup ∧ DistinctFields fields) ∧ ∀ frame ∈ stack, frame.Distinct
  | .afterItem items stack => DistinctItems items ∧ ∀ frame ∈ stack, frame.Distinct
  | .finished value => value.Distinct

variable {r r' : Reader} {token : Token} {stack : List Frame} {value : Json}

theorem distinct_complete (read : value.Distinct) (around : ∀ frame ∈ stack, frame.Distinct) :
    (complete value stack).Distinct := by
  unfold complete
  split
  · exact read
  · obtain ⟨items, outer⟩ := List.forall_mem_cons.mp around
    exact ⟨⟨read, items⟩, outer⟩
  · obtain ⟨⟨keys, values⟩, outer⟩ := List.forall_mem_cons.mp around
    exact ⟨⟨OrderedMap.distinct_insertEntry _ _ keys, values.insertEntry read⟩, outer⟩

theorem distinct_startValue (fits : token.Distinct) (around : ∀ frame ∈ stack, frame.Distinct)
    (started : startValue stack token = some r) : r.Distinct := by
  unfold startValue at started
  split at started
  · cases started
    exact distinct_complete fits around
  · split at started <;> cases started
    exact around
  · split at started <;> cases started
    exact around
  · cases started

theorem Distinct.step (fits : token.Distinct) (stepped : r.step token = some r')
    (distinct : r.Distinct) : r'.Distinct := by
  unfold Reader.step at stepped
  split at stepped
  · exact distinct_startValue fits distinct stepped
  · cases stepped
    exact distinct_complete trivial distinct
  · have opened : (Frame.array []).Distinct := trivial
    exact distinct_startValue fits (List.forall_mem_cons.mpr ⟨opened, distinct⟩) stepped
  · cases stepped
    exact distinct_complete ⟨List.nodup_nil, trivial⟩ distinct
  · cases stepped
    exact ⟨⟨List.nodup_nil, trivial⟩, distinct⟩
  · cases stepped
    exact distinct
  · cases stepped
    exact List.forall_mem_cons.mpr distinct
  · cases stepped
    exact List.forall_mem_cons.mpr distinct
  · cases stepped
    obtain ⟨items, outer⟩ := distinct
    rw [distinctItems_iff] at items
    refine distinct_complete (distinctItems_iff.mpr ?_) outer
    exact fun item mem => items item (List.mem_reverse.mp mem)
  · cases stepped
    exact distinct
  · cases stepped
    exact distinct_complete distinct.1 distinct.2
  · cases stepped

end Reader

theorem distinct_of_parse? {text : List Char} {value : Json} (parsed : parse? text = some value) :
    value.Distinct := by
  obtain ⟨tokens, scanned, parsed⟩ := Option.bind_eq_some_iff.mp parsed
  obtain ⟨r, run, parsed⟩ := Option.bind_eq_some_iff.mp parsed
  have distinct : r.Distinct :=
    foldlM_keeps (fun _ _ _ fits stepped distinct => Reader.Distinct.step fits stepped distinct)
      (distinct_of_tokens? scanned) run (List.forall_mem_nil _)
  split at parsed <;> cases parsed
  exact distinct

/-- A value that is read from a file has no double keys. -/
theorem distinct_of_decode? {content : ByteArray} {value : Json}
    (decoded : decode? content = some value) : value.Distinct := by
  obtain ⟨text, -, parsed⟩ := Option.bind_eq_some_iff.mp decoded
  exact distinct_of_parse? parsed

end Json

end LootScript
