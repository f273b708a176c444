import LootScript.Path
import Mathlib.Data.List.Induction

/-!
# Paths and places

Taking `..` back leaves none of it behind and invents no parts. It may be done at any time: a path
that goes on from a collapsed one ends where the whole path ends. A text without a null character
has a path that can be handed to the system. The text of a path that was read from a text is read as
the same path.
-/
namespace LootScript

namespace Path

variable {parts more : List String} {part : String} {path other : Path}

/-! ## Taking `..` back -/

theorem collapse_concat (parts : List String) (part : String) :
    collapse (parts ++ [part]) =
      if part = ".." then (collapse parts).dropLast else collapse parts ++ [part] := by
  simp only [collapse, List.foldl_append, List.foldl_cons, List.foldl_nil]

theorem mem_of_mem_collapse (member : part ∈ collapse parts) : part ∈ parts ∧ part ≠ ".." := by
  -- From the last part backwards, since that is the one that was handled last.
  induction parts using List.reverseRecOn with
  | nil => cases member
  | append_singleton earlier last ih =>
    rw [collapse_concat] at member
    split at member
    · -- The last part has only taken another one away.
      have before := ih (List.dropLast_subset _ member)
      exact ⟨List.mem_append_left _ before.1, before.2⟩
    · next kept =>
      rcases List.mem_append.mp member with before | here
      · exact ⟨List.mem_append_left _ (ih before).1, (ih before).2⟩
      · cases List.mem_singleton.mp here
        exact ⟨List.mem_append_right _ (List.mem_singleton_self _), kept⟩

theorem collapse_of_not_mem (plain : ".." ∉ parts) : collapse parts = parts := by
  induction parts using List.reverseRecOn with
  | nil => rfl
  | append_singleton earlier last ih =>
    rw [List.mem_append, not_or, List.mem_singleton] at plain
    rw [collapse_concat, ih plain.1, if_neg (Ne.symm plain.2)]

/-- What a path goes on to depends on the beginning only through where that ends. -/
theorem collapse_append_congr {parts' : List String} (same : collapse parts = collapse parts')
    (more : List String) : collapse (parts ++ more) = collapse (parts' ++ more) := by
  simp only [collapse, List.foldl_append] at same ⊢
  rw [same]

theorem collapse_collapse_append (parts more : List String) :
    collapse (collapse parts ++ more) = collapse (parts ++ more) := by
  apply collapse_append_congr
  -- A collapsed path has nothing left to take back.
  apply collapse_of_not_mem
  intro climbs
  exact (mem_of_mem_collapse climbs).2 rfl

/-! ## Joining -/

theorem join_assoc (base path other : Path) :
    (base.join path).join other = base.join (path.join other) := by
  cases absolute : other.isAbsolute with
  | true => simp only [join, absolute, if_true]
  | false =>
    -- What is joined to a relative path keeps the anchor of the path.
    cases absolute' : path.isAbsolute with
    | true =>
      have kept : (Path.mk path.anchor (path.parts ++ other.parts)).isAbsolute = true := absolute'
      simp [join, absolute, absolute', kept]
    | false =>
      have kept : (Path.mk path.anchor (path.parts ++ other.parts)).isAbsolute = false := absolute'
      simp [join, absolute, absolute', kept, List.append_assoc]

theorem isAbsolute_join (base path : Path) :
    (base.join path).isAbsolute = (base.isAbsolute || path.isAbsolute) := by
  cases absolute : path.isAbsolute with
  | true => simp [join, absolute]
  | false => simp [join, absolute]; rfl

/-- A path that goes on from a place without `..` ends where it ends from any way to that place. -/
theorem normal_join_normal (base path : Path) :
    (base.normal.join path).normal = (base.join path).normal := by
  cases absolute : path.isAbsolute with
  | true => simp only [join, absolute, if_true]
  | false => simp [join, absolute, normal, ofPlace, collapse_collapse_append]

/-! ## Null characters -/

theorem isNameable_iff : path.isNameable = true ↔ ∀ part ∈ path.parts, '\x00' ∉ part.toList := by
  simp [isNameable]

theorem isNameable_join (base : path.isNameable = true) (added : other.isNameable = true) :
    (path.join other).isNameable = true := by
  rw [isNameable_iff] at base added ⊢
  intro part member
  unfold join at member
  split at member
  · exact added part member
  · exact (List.mem_append.mp member).elim (base part) (added part)

theorem isNameable_normal (nameable : path.isNameable = true) :
    path.normal.isNameable = true := by
  rw [isNameable_iff] at nameable ⊢
  intro part member
  exact nameable part (mem_of_mem_collapse member).1

theorem mem_of_mem_segments {text segment : List Char} {c : Char} (member : segment ∈ segments text)
    (inside : c ∈ segment) : c ∈ text := by
  induction text generalizing segment with
  | nil =>
    cases List.mem_singleton.mp member
    exact inside
  | cons first rest ih =>
    rw [segments] at member
    split at member
    · rcases List.mem_cons.mp member with rfl | later
      · cases inside
      · exact List.mem_cons_of_mem _ (ih later inside)
    · split at member
      · cases List.mem_singleton.mp member
        rw [List.mem_singleton.mp inside]
        exact List.mem_cons_self
      · next segment' others split =>
        -- The character in front joins the segment that the rest begins with.
        rcases List.mem_cons.mp member with rfl | later
        · rcases List.mem_cons.mp inside with rfl | within
          · exact List.mem_cons_self
          · exact List.mem_cons_of_mem _ (ih (split ▸ List.mem_cons_self) within)
        · exact List.mem_cons_of_mem _ (ih (split ▸ List.mem_cons_of_mem _ later) inside)

theorem isNameable_ofText {text : String} (plain : '\x00' ∉ text.toList) :
    (ofText text).isNameable = true := by
  rw [isNameable_iff]
  intro part member null
  simp only [ofText, List.mem_map, List.mem_filter] at member
  obtain ⟨segment, ⟨split, -⟩, rfl⟩ := member
  rw [String.toList_ofList] at null
  exact plain (mem_of_mem_segments split null)

/-! ## Written paths -/

theorem segments_of_not_mem {text : List Char} (plain : '/' ∉ text) : segments text = [text] := by
  induction text with
  | nil => rfl
  | cons c rest ih =>
    rw [List.mem_cons, not_or] at plain
    rw [segments, if_neg (Ne.symm plain.1), ih plain.2]

/-- The parts are what stands between slashes, without the pieces that say nothing. -/
def WellFormed (path : Path) : Prop :=
  ∀ part ∈ path.parts, part ≠ "" ∧ part ≠ "." ∧ '/' ∉ part.toList

theorem slash_not_mem_of_mem_segments {text segment : List Char}
    (member : segment ∈ segments text) : '/' ∉ segment := by
  induction text generalizing segment with
  | nil =>
    cases List.mem_singleton.mp member
    exact List.not_mem_nil
  | cons first rest ih =>
    rw [segments] at member
    split at member
    · rcases List.mem_cons.mp member with rfl | later
      · exact List.not_mem_nil
      · exact ih later
    · next other =>
      split at member
      · cases List.mem_singleton.mp member
        simpa using Ne.symm other
      · next segment' others split =>
        rcases List.mem_cons.mp member with rfl | later
        · rw [List.mem_cons, not_or]
          exact ⟨Ne.symm other, ih (split ▸ List.mem_cons_self)⟩
        · exact ih (split ▸ List.mem_cons_of_mem _ later)

theorem wellFormed_ofText (text : String) : (ofText text).WellFormed := by
  intro part member
  simp only [ofText, List.mem_map, List.mem_filter, decide_eq_true_eq] at member
  obtain ⟨segment, ⟨split, named, moves⟩, rfl⟩ := member
  refine ⟨?_, ?_, ?_⟩
  · simpa using named
  · intro dot
    exact moves (by rw [← String.toList_ofList (l := segment), dot]; rfl)
  · rw [String.toList_ofList]
    exact slash_not_mem_of_mem_segments split

theorem segments_append_slash {head : List Char} (plain : '/' ∉ head) (rest : List Char) :
    segments (head ++ '/' :: rest) = head :: segments rest := by
  induction head with
  | nil => simp [segments]
  | cons c head ih =>
    rw [List.mem_cons, not_or] at plain
    rw [List.cons_append, segments, if_neg (Ne.symm plain.1), ih plain.2]

theorem segments_intercalate {pieces : List (List Char)} (some : pieces ≠ [])
    (plain : ∀ piece ∈ pieces, '/' ∉ piece) :
    segments (List.intercalate ['/'] pieces) = pieces := by
  induction pieces with
  | nil => exact absurd rfl some
  | cons piece rest ih =>
    rw [List.forall_mem_cons] at plain
    cases rest with
    | nil => rw [List.intercalate_singleton, segments_of_not_mem plain.1]
    | cons next rest =>
      rw [List.intercalate_cons_cons, List.append_assoc, List.singleton_append,
        segments_append_slash plain.1, ih (List.cons_ne_nil _ _) plain.2]

/-- What follows the anchor in the text of a path. -/
def body (path : Path) : List Char := List.intercalate ['/'] (path.parts.map String.toList)

/-- Only the anchor of a path begins with a slash. -/
theorem takeWhile_body (formed : path.WellFormed) : path.body.takeWhile (· = '/') = [] := by
  obtain ⟨anchor, parts⟩ := path
  cases parts with
  | nil => rfl
  | cons part rest =>
    obtain ⟨named, -, plain⟩ := formed part List.mem_cons_self
    have begins : ∃ tail, body ⟨anchor, part :: rest⟩ = part.toList ++ tail := by
      cases rest with
      | nil => exact ⟨[], by simp [body]⟩
      | cons next rest => exact ⟨_, by rw [body, List.map_cons, List.map_cons,
          List.intercalate_cons_cons, List.append_assoc]⟩
    obtain ⟨tail, split⟩ := begins
    cases chars : part.toList with
    | nil => exact absurd (String.toList_eq_nil_iff.mp chars) named
    | cons c more =>
      rw [chars, List.mem_cons, not_or] at plain
      rw [split, chars]
      simp [Ne.symm plain.1]

theorem filter_segments_body (formed : path.WellFormed) :
    ((segments path.body).filter fun segment => segment ≠ [] ∧ segment ≠ ['.']) =
      path.parts.map String.toList := by
  cases named : path.parts with
  | nil =>
    rw [body, named]
    rfl
  | cons part rest =>
    have plain : ∀ piece ∈ path.parts.map String.toList, '/' ∉ piece := by
      intro piece member
      obtain ⟨name, inside, rfl⟩ := List.mem_map.mp member
      exact (formed name inside).2.2
    rw [body, segments_intercalate (by simp [named]) plain, ← named, List.filter_eq_self]
    intro piece member
    obtain ⟨name, inside, rfl⟩ := List.mem_map.mp member
    obtain ⟨nonempty, moves, -⟩ := formed name inside
    have other : name.toList ≠ ['.'] := fun dot => moves (by rw [← String.toList_inj, dot]; rfl)
    simp [nonempty, other]

/-- A path is what its text says. -/
theorem ofText_text (formed : path.WellFormed) : ofText path.text = path := by
  obtain ⟨anchor, parts⟩ := path
  by_cases blank : anchor = .relative ∧ parts = []
  · obtain ⟨rfl, rfl⟩ := blank
    decide
  · have written : (text ⟨anchor, parts⟩).toList =
        anchor.text.toList ++ body ⟨anchor, parts⟩ := by
      rw [text, if_neg blank, String.toList_append, String.toList_intercalate]
      rfl
    have named := filter_segments_body formed
    have begins := takeWhile_body formed
    -- The slashes of the anchor add pieces that say nothing.
    have read : ((segments (anchor.text.toList ++ body ⟨anchor, parts⟩)).filter fun segment =>
        segment ≠ [] ∧ segment ≠ ['.']) = parts.map String.toList := by
      rw [← named]
      cases anchor <;> simp [Anchor.text, segments]
    have anchored : anchorOf (anchor.text.toList ++ body ⟨anchor, parts⟩) = anchor := by
      cases anchor <;> simp [anchorOf, Anchor.text, begins]
    have unread : (parts.map String.toList).map String.ofList = parts := by simp
    rw [ofText, written, read, anchored, unread]

theorem text_ne_empty (formed : path.WellFormed) : path.text ≠ "" := by
  intro blank
  -- The path of the empty text is written as a dot.
  have read := ofText_text formed
  rw [blank] at read
  rw [← read] at blank
  revert blank
  decide

/-! ## Single names -/

/-- A text without slashes is one part, unless it is one of those that say nothing. -/
theorem ofText_of_not_mem {text : List Char} (plain : '/' ∉ text) (named : text ≠ [])
    (moves : text ≠ ['.']) : ofText (String.ofList text) = ⟨.relative, [String.ofList text]⟩ := by
  have relative : anchorOf text = .relative := by
    cases text with
    | nil => rfl
    | cons c rest =>
      have other : c ≠ '/' := fun same => plain (same ▸ List.mem_cons_self)
      simp [anchorOf, other]
  rw [ofText, String.toList_ofList, segments_of_not_mem plain, relative]
  simp [named, moves]

theorem hasScriptEnding_append {ending : String} (name : String)
    (known : ending ∈ scriptEndings) : hasScriptEnding (name ++ ending) = true := by
  simp only [hasScriptEnding, List.any_eq_true]
  refine ⟨ending, known, ?_⟩
  rw [String.toList_append, List.isSuffixOf_iff_suffix]
  exact List.suffix_append _ _

end Path

end LootScript
