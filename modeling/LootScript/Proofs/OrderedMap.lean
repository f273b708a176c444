import LootScript.OrderedMap
import Mathlib.Data.List.Forall2
import Mathlib.Data.Option.Basic

/-!
# Laws of ordered maps

A map is determined by its keys in their order together with what each of them stands for. From this
it follows that writing maps over one another is associative, with the empty map on either side, and
that keeping some of the keys may be done before or after the writing.
-/
namespace LootScript

variable {κ α : Type} [DecidableEq κ]

namespace OrderedMap

/-! ## Equality -/

omit [DecidableEq κ] in
theorem ext_entries {a b : OrderedMap κ α} (same : a.entries = b.entries) : a = b := by
  cases a
  cases b
  cases same
  rfl

theorem lookup_eq_none_iff_keys (entries : List (κ × α)) (key : κ) :
    entries.lookup key = none ↔ key ∉ entries.map Prod.fst := by
  simp only [List.lookup_eq_none_iff, List.mem_map, not_exists, not_and]
  constructor
  · rintro absent entry member rfl
    simpa using absent entry member
  · intro absent entry member
    simpa using fun same => absent entry member same.symm

theorem lookup_eq_some_iff_mem {entries : List (κ × α)} (distinct : (entries.map Prod.fst).Nodup)
    {key : κ} {value : α} : entries.lookup key = some value ↔ (key, value) ∈ entries := by
  induction entries with
  | nil => simp
  | cons first rest ih =>
    obtain ⟨other, found⟩ := first
    rw [List.map_cons, List.nodup_cons] at distinct
    rw [List.lookup_cons, List.mem_cons, ← ih distinct.2]
    by_cases same : key = other
    · -- The first entry of the key is the only one.
      subst same
      have absent := (lookup_eq_none_iff_keys rest key).mpr distinct.1
      simp [absent, eq_comm]
    · have unequal : (key == other) = false := by simpa using same
      simp [unequal, same]

/-- Where no two entries share a key, their order does not matter. -/
theorem lookup_eq_of_perm {entries entries' : List (κ × α)}
    (distinct : (entries.map Prod.fst).Nodup) (perm : entries.Perm entries') (key : κ) :
    entries.lookup key = entries'.lookup key := by
  have distinct' := (perm.map Prod.fst).nodup_iff.mp distinct
  ext value
  rw [lookup_eq_some_iff_mem distinct, lookup_eq_some_iff_mem distinct', perm.mem_iff]

/-- Lists of entries with the same keys and the same values behind them are the same. -/
private theorem eq_of_lookup : (es fs : List (κ × α)) → (es.map Prod.fst).Nodup →
    es.map Prod.fst = fs.map Prod.fst → (∀ key, es.lookup key = fs.lookup key) → es = fs
  | [], fs, _, keys, _ => by simpa using keys.symm
  | (k, v) :: es, [], _, keys, _ => by cases keys
  | (k, v) :: es, (k', v') :: fs, distinct, keys, values => by
    simp only [List.map_cons, List.cons.injEq] at keys
    obtain ⟨rfl, keys⟩ := keys
    simp only [List.map_cons, List.nodup_cons] at distinct
    have first : v = v' := by simpa using values k
    have rest : es = fs := by
      refine eq_of_lookup es fs distinct.2 keys fun key => ?_
      by_cases same : key = k
      · -- The first key stands nowhere else, so neither list has a value for it.
        subst same
        rw [(lookup_eq_none_iff_keys es key).mpr distinct.1,
          (lookup_eq_none_iff_keys fs key).mpr (keys ▸ distinct.1)]
      · have unequal : (key == k) = false := by simpa using same
        simpa only [List.lookup_cons, unequal] using values key
    rw [first, rest]

/-- Two maps are equal when they agree on the order of the keys and on every value. -/
theorem ext_find? {a b : OrderedMap κ α} (keys : a.keys = b.keys)
    (values : ∀ key, a.find? key = b.find? key) : a = b :=
  ext_entries (eq_of_lookup a.entries b.entries a.distinct keys values)

/-! ## Writing entries -/

theorem mem_keys_insert {m : OrderedMap κ α} {key other : κ} {value : α} :
    other ∈ (m.insert key value).keys ↔ other = key ∨ other ∈ m.keys := by
  rw [keys_insert]
  split
  · next present =>
    refine ⟨.inr, ?_⟩
    rintro (rfl | old)
    · exact present
    · exact old
  · simp [or_comm]

@[simp]
theorem insertAll_nil (m : OrderedMap κ α) : m.insertAll [] = m := rfl

@[simp]
theorem insertAll_cons (m : OrderedMap κ α) (entry : κ × α) (entries : List (κ × α)) :
    m.insertAll (entry :: entries) = (m.insert entry.1 entry.2).insertAll entries := rfl

theorem insert_insert (m : OrderedMap κ α) (key : κ) (old new : α) :
    (m.insert key old).insert key new = m.insert key new := by
  apply ext_find?
  · by_cases present : key ∈ m.keys <;> simp [present]
  · intro other
    by_cases same : other = key <;> simp [same]

/-- A key that is present keeps its place, so it may as well be written before another one. -/
theorem insert_comm {m : OrderedMap κ α} {key other : κ} (present : key ∈ m.keys)
    (different : other ≠ key) (value value' : α) :
    (m.insert other value').insert key value = (m.insert key value).insert other value' := by
  apply ext_find?
  · by_cases also : other ∈ m.keys <;> simp [present, also]
  · intro found
    by_cases first : found = key
    · subst first
      simp [different.symm]
    · simp [first]

theorem insert_insertAll {m : OrderedMap κ α} {key : κ} (present : key ∈ m.keys)
    {entries : List (κ × α)} (unwritten : key ∉ entries.map Prod.fst) (value : α) :
    (m.insertAll entries).insert key value = (m.insert key value).insertAll entries := by
  -- The key stays present while the entries are written, so it may pass each of them.
  induction entries generalizing m with
  | nil => rfl
  | cons entry rest ih =>
    simp only [List.map_cons, List.mem_cons, not_or] at unwritten
    have still : key ∈ (m.insert entry.1 entry.2).keys := mem_keys_insert.mpr (.inr present)
    rw [insertAll_cons, ih still unwritten.2, insert_comm present (Ne.symm unwritten.1),
      insertAll_cons]

theorem insertAll_insertEntry (m : OrderedMap κ α) (key : κ) (value : α)
    {entries : List (κ × α)} (distinct : (entries.map Prod.fst).Nodup) :
    m.insertAll (insertEntry key value entries) = (m.insertAll entries).insert key value := by
  induction entries generalizing m with
  | nil => rfl
  | cons entry rest ih =>
    obtain ⟨k, v⟩ := entry
    simp only [List.map_cons, List.nodup_cons] at distinct
    by_cases same : k = key
    · -- The old value is written first, and the new one has to pass the rest to meet it.
      subst same
      have present : k ∈ (m.insert k v).keys := mem_keys_insert.mpr (.inl rfl)
      simp only [insertEntry, if_true, insertAll_cons]
      rw [insert_insertAll present distinct.1, insert_insert]
    · simp only [insertEntry, if_neg same, insertAll_cons]
      exact ih _ distinct.2

/-- Entries may be written over a map before or after that map is written over another one. -/
theorem insertAll_insertAll (m n : OrderedMap κ α) (entries : List (κ × α)) :
    m.insertAll (n.insertAll entries).entries = (m.insertAll n.entries).insertAll entries := by
  -- The upper map changes with every entry, so the induction is for all of them.
  induction entries generalizing n with
  | nil => rfl
  | cons entry rest ih =>
    have one : m.insertAll (n.insert entry.1 entry.2).entries =
        (m.insertAll n.entries).insert entry.1 entry.2 :=
      insertAll_insertEntry m entry.1 entry.2 n.distinct
    rw [insertAll_cons, ih, one, insertAll_cons]

theorem insertEntry_of_notMem {key : κ} {value : α} {entries : List (κ × α)}
    (absent : key ∉ entries.map Prod.fst) :
    insertEntry key value entries = entries ++ [(key, value)] := by
  induction entries with
  | nil => rfl
  | cons entry rest ih =>
    simp only [List.map_cons, List.mem_cons, not_or] at absent
    simp only [insertEntry, if_neg (Ne.symm absent.1), ih absent.2, List.cons_append]

private theorem entries_insert_of_notMem {m : OrderedMap κ α} {key : κ} (absent : key ∉ m.keys)
    (value : α) : (m.insert key value).entries = m.entries ++ [(key, value)] :=
  insertEntry_of_notMem absent

/-- New keys go to the end, in the order in which they are written. -/
theorem entries_insertAll_of_disjoint {m : OrderedMap κ α} {entries : List (κ × α)}
    (distinct : (m.keys ++ entries.map Prod.fst).Nodup) :
    (m.insertAll entries).entries = m.entries ++ entries := by
  induction entries generalizing m with
  | nil => simp
  | cons entry rest ih =>
    have absent : entry.1 ∉ m.keys := by
      intro present
      have apart := (List.nodup_append.mp distinct).2.2
      exact apart entry.1 present entry.1 (by simp) rfl
    have grown := entries_insert_of_notMem absent entry.2
    rw [insertAll_cons, ih, grown, List.append_assoc, List.singleton_append]
    rw [keys, grown]
    simpa [keys] using distinct

/-- The entries of a map, written in their order, give the map again. -/
@[simp]
theorem empty_insertAll_entries (m : OrderedMap κ α) : empty.insertAll m.entries = m := by
  apply ext_entries
  rw [entries_insertAll_of_disjoint (by simpa [keys, empty] using m.distinct)]
  rfl

theorem mem_insertEntry {key : κ} {value : α} {entries : List (κ × α)} {entry : κ × α}
    (member : entry ∈ insertEntry key value entries) : entry = (key, value) ∨ entry ∈ entries := by
  induction entries with
  | nil => exact .inl (List.mem_singleton.mp member)
  | cons first rest ih =>
    rw [insertEntry] at member
    split at member
    · rcases List.mem_cons.mp member with rfl | later
      · exact .inl rfl
      · exact .inr (List.mem_cons_of_mem _ later)
    · rcases List.mem_cons.mp member with rfl | later
      · exact .inr List.mem_cons_self
      · exact (ih later).imp_right (List.mem_cons_of_mem _)

/-- Writing makes up no entries. -/
theorem mem_insertAll {m : OrderedMap κ α} {entries : List (κ × α)} {entry : κ × α}
    (member : entry ∈ (m.insertAll entries).entries) : entry ∈ m.entries ∨ entry ∈ entries := by
  induction entries generalizing m with
  | nil => exact .inl member
  | cons first rest ih =>
    rcases ih member with written | later
    · rcases mem_insertEntry written with rfl | old
      · exact .inr List.mem_cons_self
      · exact .inl old
    · exact .inr (List.mem_cons_of_mem _ later)

/-! ## Keys and values after writing -/

theorem find?_eq_none_iff {m : OrderedMap κ α} {key : κ} :
    m.find? key = none ↔ key ∉ m.keys :=
  lookup_eq_none_iff_keys m.entries key

/-- Keys that are new stand behind the old ones, in the order in which they are first written. -/
theorem keys_insertAll (m : OrderedMap κ α) (entries : List (κ × α)) :
    (m.insertAll entries).keys =
      m.keys ++ ((entries.map Prod.fst).removeAll m.keys).eraseDups := by
  induction entries generalizing m with
  | nil => simp [List.removeAll]
  | cons entry rest ih =>
    rw [insertAll_cons, ih, keys_insert, List.map_cons]
    split
    · next present => simp [List.removeAll, present]
    · next absent =>
      -- From now on the key counts as an old one.
      have later : (rest.map Prod.fst).removeAll (m.keys ++ [entry.1]) =
          ((rest.map Prod.fst).removeAll m.keys).filter (fun key => !key == entry.1) := by
        rw [List.removeAll, List.removeAll, List.filter_filter]
        refine List.filter_congr fun key _ => ?_
        by_cases same : key = entry.1 <;> simp [same]
      have first : (entry.1 :: rest.map Prod.fst).removeAll m.keys =
          entry.1 :: (rest.map Prod.fst).removeAll m.keys := by
        simp [List.removeAll, absent]
      rw [first, List.eraseDups_cons, later, List.append_assoc, List.singleton_append]

/-- What is written over a map hides what stands below it. -/
theorem find?_insertAll (m : OrderedMap κ α) {entries : List (κ × α)}
    (distinct : (entries.map Prod.fst).Nodup) (key : κ) :
    (m.insertAll entries).find? key = (entries.lookup key).or (m.find? key) := by
  induction entries generalizing m with
  | nil => rfl
  | cons entry rest ih =>
    obtain ⟨k, v⟩ := entry
    simp only [List.map_cons, List.nodup_cons] at distinct
    rw [insertAll_cons, ih _ distinct.2, find?_insert]
    by_cases same : key = k
    · -- The key comes only once, so the rest does not hide its value.
      subst same
      have absent := (lookup_eq_none_iff_keys rest key).mpr distinct.1
      simp [absent]
    · have unequal : (key == k) = false := by simpa using same
      simp [List.lookup_cons, unequal, same]

/-! ## Keeping some of the keys -/

omit [DecidableEq κ] in
theorem filterKeys_filterKeys (m : OrderedMap κ α) (keep again : κ → Bool) :
    (m.filterKeys again).filterKeys keep = m.filterKeys fun key => keep key && again key :=
  ext_entries (by simp [filterKeys, List.filter_filter])

theorem filterKeys_insert (m : OrderedMap κ α) (keep : κ → Bool) (key : κ) (value : α) :
    (m.insert key value).filterKeys keep =
      if keep key then (m.filterKeys keep).insert key value else m.filterKeys keep := by
  cases kept : keep key with
  | false =>
    apply ext_find?
    · by_cases present : key ∈ m.keys <;> simp [present, kept]
    · intro other
      by_cases same : other = key <;> simp [same, kept]
  | true =>
    apply ext_find?
    · by_cases present : key ∈ m.keys <;> simp [present, kept]
    · intro other
      by_cases same : other = key <;> simp [same, kept]

/-- What is kept of a map written over another one is what is kept of either. -/
theorem filterKeys_insertAll (m : OrderedMap κ α) (keep : κ → Bool) (entries : List (κ × α)) :
    (m.insertAll entries).filterKeys keep =
      (m.filterKeys keep).insertAll (entries.filter fun entry => keep entry.1) := by
  induction entries generalizing m with
  | nil => rfl
  | cons entry rest ih =>
    rw [insertAll_cons, ih, filterKeys_insert]
    cases kept : keep entry.1 <;> simp [kept]

/-- Erasing keys one after the other keeps what is not among them. -/
theorem foldl_erase (m : OrderedMap κ α) (keys : List κ) :
    keys.foldl erase m = m.filterKeys (· ∉ keys) := by
  induction keys generalizing m with
  | nil => exact ext_entries (List.filter_eq_self.mpr (by simp)).symm
  | cons key rest ih =>
    rw [List.foldl_cons, ih, erase, filterKeys_filterKeys]
    congr 1
    funext other
    simp [Bool.and_comm]

/-! ## Maps whose values correspond -/

section Related

variable {β : Type} {same : α → β → Prop}

/-- The same keys in the same order, with values that correspond. -/
def Related (same : α → β → Prop) (m : OrderedMap κ α) (n : OrderedMap κ β) : Prop :=
  List.Forall₂ (fun entry entry' => entry'.1 = entry.1 ∧ same entry.2 entry'.2) m.entries n.entries

variable {m : OrderedMap κ α} {n : OrderedMap κ β}

omit [DecidableEq κ] in
theorem related_empty : Related same (empty : OrderedMap κ α) (empty : OrderedMap κ β) := .nil

theorem Related.insert {value : α} {value' : β} (related : Related same m n) (key : κ)
    (here : same value value') : Related same (m.insert key value) (n.insert key value') := by
  simp only [Related, OrderedMap.insert] at related ⊢
  generalize m.entries = entries, n.entries = entries' at related ⊢
  induction related with
  | nil => exact .cons ⟨rfl, here⟩ .nil
  | @cons entry entry' rest rest' first later ih =>
    obtain ⟨k, v⟩ := entry
    obtain ⟨k', v'⟩ := entry'
    obtain ⟨rfl, values⟩ := first
    rw [insertEntry, insertEntry]
    split
    · exact .cons ⟨rfl, here⟩ later
    · exact .cons ⟨rfl, values⟩ ih

theorem Related.insertAll {m' : OrderedMap κ α} {n' : OrderedMap κ β}
    (related : Related same m n) (written : Related same m' n') :
    Related same (m.insertAll m'.entries) (n.insertAll n'.entries) := by
  rw [Related] at written
  generalize m'.entries = entries, n'.entries = entries' at written
  induction written generalizing m n with
  | nil => exact related
  | @cons entry entry' rest rest' first _ ih =>
    rw [insertAll_cons, insertAll_cons, first.1]
    exact ih (related.insert entry.1 first.2)

omit [DecidableEq κ] in
theorem Related.filterKeys (related : Related same m n) (keep : κ → Bool) :
    Related same (m.filterKeys keep) (n.filterKeys keep) := by
  simp only [Related, OrderedMap.filterKeys] at related ⊢
  generalize m.entries = entries, n.entries = entries' at related ⊢
  induction related with
  | nil => exact .nil
  | @cons entry entry' rest rest' first _ ih =>
    rw [List.filter_cons, List.filter_cons, first.1]
    cases keep entry.1 with
    | true => exact .cons first ih
    | false => exact ih

theorem Related.find? (related : Related same m n) (key : κ) :
    Option.Rel same (m.find? key) (n.find? key) := by
  simp only [Related, OrderedMap.find?] at related ⊢
  generalize m.entries = entries, n.entries = entries' at related ⊢
  induction related with
  | nil => exact .none
  | @cons entry entry' rest rest' first _ ih =>
    rw [List.lookup_cons, List.lookup_cons, first.1]
    cases key == entry.1 with
    | true => exact .some first.2
    | false => exact ih

/-- Changes every value and leaves the keys as they stand. -/
def mapValues (change : α → β) (m : OrderedMap κ α) : OrderedMap κ β :=
  ⟨m.entries.map fun entry => (entry.1, change entry.2), by
    rw [List.map_map]
    exact m.distinct⟩

theorem find?_mapValues (change : α → β) (m : OrderedMap κ α) (key : κ) :
    (m.mapValues change).find? key = (m.find? key).map change := by
  simp only [find?, mapValues]
  induction m.entries with
  | nil => rfl
  | cons entry rest ih =>
    rw [List.map_cons, List.lookup_cons, List.lookup_cons, ih]
    cases key == entry.1 <;> rfl

omit [DecidableEq κ] in
theorem related_iff_mapValues (change : α → β) :
    Related (fun value value' => value' = change value) m n ↔ n = m.mapValues change := by
  constructor
  · intro related
    apply ext_entries
    rw [Related] at related
    show n.entries = m.entries.map fun entry => (entry.1, change entry.2)
    generalize m.entries = entries, n.entries = entries' at related ⊢
    induction related with
    | nil => rfl
    | cons first _ ih => rw [List.map_cons, ← ih, ← first.2, ← first.1]
  · rintro rfl
    exact List.forall₂_map_right_iff.mpr (List.forall₂_same.mpr fun entry _ => ⟨rfl, rfl⟩)

end Related

end OrderedMap

end LootScript
