import LootScript.Proofs.Json.Distinct
import LootScript.Proofs.Json.Numeral

/-!
# Reading what was printed

A value without double keys, printed in any layout that puts nothing but blanks between the marks,
is read as the same value again: numbers keep their kind and fields their order. Two steps lead
there. The text is scanned as the tokens of the value, whatever its layout; and the reader, given
these tokens, hands the value to the container around it.
-/
namespace LootScript

namespace Json

/-! ## The tokens of a value -/

/-- Members between brackets. -/
def enclosed (opening closing : Token) (members : List (List Token)) : List Token :=
  opening :: ([Token.comma].intercalate members ++ [closing])

mutual

def tokens : Json → List Token
  | .arr items => enclosed .openBracket .closeBracket (itemTokens items)
  | .obj fields => enclosed .openBrace .closeBrace (fieldTokens fields)
  | .null => [.scalar .null]
  | .bool b => [.scalar (.bool b)]
  | .int n => [.scalar (.int n)]
  | .double d => [.scalar (.double d)]
  | .str text => [.scalar (.str text)]

def itemTokens : List Json → List (List Token)
  | [] => []
  | item :: rest => item.tokens :: itemTokens rest

def fieldTokens : List (String × Json) → List (List Token)
  | [] => []
  | (key, value) :: rest => (.scalar (.str key) :: .colon :: value.tokens) :: fieldTokens rest

end

/-! ## Printed text -/

/-- The text is read as these tokens, whatever comes after it, as long as it stands apart. -/
def Prints (text : List Char) (tokens : List Token) : Prop :=
  ∀ ⦃rest later⦄, StandsApart rest → Scans rest later → Scans (text ++ rest) (tokens ++ later)

/-- Only blanks stand between the marks and the members. -/
structure Layout.Blank (layout : Layout) : Prop where
  line : ∀ depth, ∀ c ∈ (layout.line depth).toList, isBlank c = true
  afterKey : ∃ blanks, layout.afterKey.toList = ':' :: blanks ∧ ∀ c ∈ blanks, isBlank c = true

theorem blank_compactLayout : compactLayout.Blank where
  line _ := List.forall_mem_nil _
  afterKey := ⟨[], rfl, List.forall_mem_nil _⟩

theorem blank_indentedLayout : indentedLayout.Blank where
  line depth c mem := by
    rw [indentedLayout, String.toList_ofList, List.mem_cons] at mem
    obtain rfl | space := mem
    · rfl
    · rw [List.eq_of_mem_replicate space]
      rfl
  afterKey := ⟨[' '], rfl, List.all_eq_true.mp rfl⟩

variable {layout : Layout} {c : Char}

theorem word?_null : word? "null".toList = some .null := by decide

theorem word?_bool (b : Bool) :
    word? (if b then "true" else "false").toList = some (.bool b) := by
  cases b <;> decide

theorem prints_word {letters : List Char} {value : Json} (word : word? letters = some value) :
    Prints letters [.scalar value] := by
  have nonempty : letters ≠ [] := by
    rintro rfl
    cases word
  exact fun _ _ apart rest =>
    rest.word nonempty (fun _ mem => isLetter_of_word? word mem) word apart

theorem prints_quote (text : String) : Prints (quote text).toList [.scalar (.str text)] :=
  fun _ _ _ rest => rest.quoted

theorem standsApart_mark {token : Token} {rest : List Char}
    (mark : punctuation? c = some token) : StandsApart (c :: rest) := by
  simp [StandsApart, endsWord, mark]

theorem standsApart_blanks {blanks rest : List Char} (blank : ∀ c ∈ blanks, isBlank c = true)
    (apart : StandsApart rest) : StandsApart (blanks ++ rest) := by
  cases blanks with
  | nil => exact apart
  | cons c others => simp [StandsApart, endsWord, blank c List.mem_cons_self]

/-- Members with commas and blanks between them. -/
theorem prints_intercalate {members : List String} {read : List (List Token)} {line : String}
    (blank : ∀ c ∈ line.toList, isBlank c = true)
    (each : List.Forall₂ (fun text tokens => Prints text.toList tokens) members read)
    (nonempty : members ≠ []) :
    Prints (String.intercalate ("," ++ line) members).toList ([Token.comma].intercalate read) := by
  induction each with
  | nil => exact absurd rfl nonempty
  | @cons first firstTokens others othersTokens printed later ih =>
    -- The last member stands by itself, any other one before a comma.
    cases later with
    | nil => simpa using printed
    | cons second later =>
      intro rest tokens apart scans
      have onward := ih (List.cons_ne_nil _ _) apart scans
      have comma : punctuation? ',' = some .comma := rfl
      have text := printed (standsApart_mark comma) ((onward.blanks blank).mark comma)
      simpa [String.intercalate_cons_cons, List.intercalate_cons_cons] using text

theorem prints_enclose (blank : layout.Blank) {o : Char} {opening closing : Token}
    (opens : punctuation? o = some opening) (closes : punctuation? c = some closing) {depth : Nat}
    {members : List String} {read : List (List Token)}
    (each : List.Forall₂ (fun text tokens => Prints text.toList tokens) members read) :
    Prints (enclose layout depth (String.ofList [o]) (String.ofList [c]) members).toList
      (enclosed opening closing read) := by
  intro rest later apart scans
  have closed := scans.mark closes
  cases each with
  | nil =>
    -- Nothing at all stands between the marks.
    simpa [enclose, enclosed] using closed.mark opens
  | cons printed others =>
    have inside := prints_intercalate (blank.line (depth + 1)) (.cons printed others)
      (List.cons_ne_nil _ _)
    have ended := inside (standsApart_blanks (blank.line depth) (standsApart_mark closes))
      (closed.blanks (blank.line depth))
    simpa [enclose, enclosed] using (ended.blanks (blank.line (depth + 1))).mark opens

mutual

theorem prints_print (blank : layout.Blank) : (depth : Nat) → (value : Json) →
    Prints (print layout depth value).toList value.tokens
  | _, .null => prints_word word?_null
  | _, .bool b => prints_word (word?_bool b)
  | _, .int n => prints_word (word?_toString n)
  | _, .double d => prints_word (word?_render d)
  | _, .str text => prints_quote text
  | depth, .arr items => prints_enclose blank rfl rfl (prints_printItems blank (depth + 1) items)
  | depth, .obj fields => prints_enclose blank rfl rfl (prints_printFields blank (depth + 1) fields)

theorem prints_printItems (blank : layout.Blank) (depth : Nat) : (items : List Json) →
    List.Forall₂ (fun text tokens => Prints text.toList tokens) (printItems layout depth items)
      (itemTokens items)
  | [] => .nil
  | item :: rest => .cons (prints_print blank depth item) (prints_printItems blank depth rest)

theorem prints_printFields (blank : layout.Blank) (depth : Nat) : (fields : List (String × Json)) →
    List.Forall₂ (fun text tokens => Prints text.toList tokens) (printFields layout depth fields)
      (fieldTokens fields)
  | [] => .nil
  | (key, value) :: rest => by
    refine .cons ?_ (prints_printFields blank depth rest)
    obtain ⟨blanks, afterKey, blankAfter⟩ := blank.afterKey
    have colon : punctuation? ':' = some .colon := rfl
    intro after later apart scans
    have read := prints_print blank depth value apart scans
    have text := prints_quote key (standsApart_mark colon) ((read.blanks blankAfter).mark colon)
    simpa [afterKey] using text

end

/-! ## The reader on tokens -/

theorem intercalate_comma (first : List Token) (others : List (List Token)) :
    [Token.comma].intercalate (first :: others) = first ++ others.flatMap (Token.comma :: ·) := by
  induction others generalizing first with
  | nil => simp
  | cons second others ih => simp [List.intercalate_cons_cons, ih]

theorem exists_head_tokens (value : Json) :
    ∃ token others, value.tokens = token :: others ∧ token ≠ .closeBracket := by
  cases value <;> exact ⟨_, _, rfl, nofun⟩

namespace Reader

variable {stack : List Frame} {rest : List Token}

/-- The first item of a list is read as any value in it. -/
theorem foldlM_firstItem (value : Json) (rest : List Token) :
    (value.tokens ++ rest).foldlM step (.atFirstItem stack) =
      (value.tokens ++ rest).foldlM step (.atValue (.array [] :: stack)) := by
  obtain ⟨token, others, starts, open_⟩ := value.exists_head_tokens
  have same : step (.atFirstItem stack) token = step (.atValue (.array [] :: stack)) token := by
    cases token <;> first | rfl | exact absurd rfl open_
  rw [starts, List.cons_append, List.foldlM_cons, List.foldlM_cons, same]

mutual

/--
The tokens of a value lead from where a value is due to where the value has been handed on. Each
container takes a level from those that are left and puts a frame on the stack instead.
-/
theorem foldlM_tokens : (value : Json) → (levels : Nat) → value.Distinct →
    value.nestsWithin levels = true → ∀ {stack}, stack.length + levels ≤ maxDepth → ∀ rest,
    (value.tokens ++ rest).foldlM step (.atValue stack) = rest.foldlM step (complete value stack)
  | .null, _, _, _, _, _, _ => rfl
  | .bool _, _, _, _, _, _, _ => rfl
  | .int _, _, _, _, _, _, _ => rfl
  | .double _, _, _, _, _, _, _ => rfl
  | .str _, _, _, _, _, _, _ => rfl
  | .arr items, levels, distinct, nests, stack, shallow, rest => by
    simp only [nestsWithin, Bool.and_eq_true, decide_eq_true_eq] at nests
    obtain ⟨positive, nests⟩ := nests
    have room : stack.length < maxDepth := by omega
    have opened : step (.atValue stack) .openBracket = some (.atFirstItem stack) := if_pos room
    rw [tokens, enclosed, List.cons_append, foldlM_of_step opened]
    cases items with
    | nil => rfl
    | cons item others =>
      simp only [nestAllWithin, Bool.and_eq_true] at nests
      have inside : (Frame.array [] :: stack).length + (levels - 1) ≤ maxDepth := by
        rw [List.length_cons]
        omega
      have after : stack.length + 1 + (levels - 1) ≤ maxDepth := by omega
      rw [itemTokens, intercalate_comma, List.append_assoc, List.append_assoc, foldlM_firstItem,
        foldlM_tokens item (levels - 1) distinct.1 nests.1 inside, complete,
        foldlM_itemTokens others (levels - 1) distinct.2 nests.2 after [item]]
      have closed : step (.afterItem (others.reverse ++ [item]) stack) .closeBracket =
          some (complete (.arr (others.reverse ++ [item]).reverse) stack) := rfl
      rw [List.singleton_append, foldlM_of_step closed, List.reverse_append, List.reverse_reverse]
      rfl
  | .obj fields, levels, distinct, nests, stack, shallow, rest => by
    simp only [nestsWithin, Bool.and_eq_true, decide_eq_true_eq] at nests
    obtain ⟨positive, nests⟩ := nests
    have room : stack.length < maxDepth := by omega
    have opened : step (.atValue stack) .openBrace = some (.atFirstKey stack) := if_pos room
    rw [tokens, enclosed, List.cons_append, foldlM_of_step opened]
    cases fields with
    | nil => rfl
    | cons field others =>
      obtain ⟨key, value⟩ := field
      obtain ⟨keys, distinct⟩ := distinct
      simp only [fieldsNestWithin, Bool.and_eq_true] at nests
      have inside : (Frame.object [] key :: stack).length + (levels - 1) ≤ maxDepth := by
        rw [List.length_cons]
        omega
      have after : stack.length + 1 + (levels - 1) ≤ maxDepth := by omega
      have named : step (.atFirstKey stack) (.scalar (.str key)) = some (.atColon [] key stack) :=
        rfl
      have begun : step (.atColon [] key stack) .colon =
          some (.atValue (.object [] key :: stack)) := rfl
      have closed : step (.afterField ((key, value) :: others) stack) .closeBrace =
          some (complete (.obj ((key, value) :: others)) stack) := rfl
      rw [fieldTokens, intercalate_comma, List.append_assoc, List.append_assoc, List.cons_append,
        List.cons_append, foldlM_of_step named, foldlM_of_step begun,
        foldlM_tokens value (levels - 1) distinct.1 nests.1 inside, complete,
        OrderedMap.insertEntry,
        foldlM_fieldTokens others (levels - 1) distinct.2 nests.2 after [(key, value)] _ keys,
        List.singleton_append, List.singleton_append, foldlM_of_step closed]

/-- The items after the first, each behind a comma. -/
theorem foldlM_itemTokens : (items : List Json) → (levels : Nat) → DistinctItems items →
    nestAllWithin levels items = true → ∀ {stack}, stack.length + 1 + levels ≤ maxDepth →
    ∀ before rest, ((itemTokens items).flatMap (Token.comma :: ·) ++ rest).foldlM step
      (.afterItem before stack) = rest.foldlM step (.afterItem (items.reverse ++ before) stack)
  | [], _, _, _, _, _, _, _ => rfl
  | item :: others, levels, distinct, nests, stack, shallow, before, rest => by
    simp only [nestAllWithin, Bool.and_eq_true] at nests
    have inside : (Frame.array before :: stack).length + levels ≤ maxDepth := shallow
    have begun : step (.afterItem before stack) .comma =
        some (.atValue (.array before :: stack)) := rfl
    rw [itemTokens, List.flatMap_cons, List.append_assoc, List.cons_append, foldlM_of_step begun,
      foldlM_tokens item levels distinct.1 nests.1 inside, complete,
      foldlM_itemTokens others levels distinct.2 nests.2 shallow, List.reverse_cons,
      List.append_assoc, List.singleton_append]

/-- The fields after the first. As no key comes twice, each field goes to the end. -/
theorem foldlM_fieldTokens : (fields : List (String × Json)) → (levels : Nat) →
    DistinctFields fields → fieldsNestWithin levels fields = true →
    ∀ {stack}, stack.length + 1 + levels ≤ maxDepth →
    ∀ before rest, ((before ++ fields).map Prod.fst).Nodup →
    ((fieldTokens fields).flatMap (Token.comma :: ·) ++ rest).foldlM step
      (.afterField before stack) = rest.foldlM step (.afterField (before ++ fields) stack)
  | [], _, _, _, _, _, _, _, _ => by rw [List.append_nil]; rfl
  | (key, value) :: others, levels, distinct, nests, stack, shallow, before, rest, keys => by
    simp only [fieldsNestWithin, Bool.and_eq_true] at nests
    have inside : (Frame.object before key :: stack).length + levels ≤ maxDepth := shallow
    have next : step (.afterField before stack) .comma = some (.atKey before stack) := rfl
    have named : step (.atKey before stack) (.scalar (.str key)) =
        some (.atColon before key stack) := rfl
    have begun : step (.atColon before key stack) .colon =
        some (.atValue (.object before key :: stack)) := rfl
    have absent : key ∉ before.map Prod.fst := by
      rw [List.map_append, List.nodup_append] at keys
      exact fun present => keys.2.2 key present key List.mem_cons_self rfl
    have later : ((before ++ [(key, value)]) ++ others).map Prod.fst |>.Nodup := by
      rwa [List.append_assoc, List.singleton_append]
    rw [fieldTokens, List.flatMap_cons, List.append_assoc, List.cons_append, List.cons_append,
      List.cons_append, foldlM_of_step next, foldlM_of_step named, foldlM_of_step begun,
      foldlM_tokens value levels distinct.1 nests.1 inside, complete,
      OrderedMap.insertEntry_of_notMem absent,
      foldlM_fieldTokens others levels distinct.2 nests.2 shallow _ _ later, List.append_assoc,
      List.singleton_append]

end

end Reader

/-! ## The round trip -/

theorem parse?_print (blank : layout.Blank) {value : Json} (distinct : value.Distinct)
    {levels : Nat} (nests : value.nestsWithin levels = true) (shallow : levels ≤ Reader.maxDepth)
    (depth : Nat) {blanks : List Char} (after : ∀ c ∈ blanks, isBlank c = true) :
    parse? ((print layout depth value).toList ++ blanks) = some value := by
  have ended : StandsApart (blanks ++ []) := standsApart_blanks after trivial
  have scanned := tokens?_of_scans (prints_print blank depth value ended (scans_nil.blanks after))
  rw [List.append_nil] at scanned
  have inside : ([] : List Frame).length + levels ≤ Reader.maxDepth := by simpa using shallow
  rw [parse?, scanned]
  simp only [Option.bind_eq_bind, Option.bind_some,
    Reader.foldlM_tokens value levels distinct nests inside []]
  rfl

theorem decode?_toUTF8 (text : String) : decode? text.toUTF8 = parse? text.toList := by
  have valid : String.fromUTF8? text.toUTF8 = some text := dif_pos text.isValidUTF8
  rw [decode?, valid]
  rfl

/-- Compact text is read as the value again, if the value does not nest too deep for the reader. -/
theorem decode?_compact {value : Json} (distinct : value.Distinct)
    (nests : value.nestsWithin Reader.maxDepth = true) :
    decode? value.compact.toUTF8 = some value := by
  have read := parse?_print blank_compactLayout distinct nests le_rfl 0 (List.forall_mem_nil _)
  rwa [List.append_nil, ← decode?_toUTF8] at read

/-- The indented text of a value, and a line break: the value is read from it again. -/
theorem decode?_indented {value : Json} {text : String} (distinct : value.Distinct)
    (printed : value.indented? = some text) : decode? (text ++ "\n").toUTF8 = some value := by
  rw [indented?, Option.ite_none_right_eq_some, Option.some.injEq] at printed
  obtain ⟨nests, rfl⟩ := printed
  have blank : ∀ c ∈ "\n".toList, isBlank c = true := List.all_eq_true.mp rfl
  rw [decode?_toUTF8, String.toList_append]
  exact parse?_print blank_indentedLayout distinct nests (by decide) 0 blank

end Json

end LootScript
