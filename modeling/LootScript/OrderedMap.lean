/-!
# Insertion-ordered maps

Pools, registries and settings are finite maps that remember the order in which their keys first
appeared. Writing to a key that is already present replaces its value and leaves it where it
stands; a new key goes to the end. Both the map from keys to values and the order of the keys can
be observed, so two maps are equal only when they agree on both.
-/
namespace LootScript

variable {κ α β : Type} [DecidableEq κ]

/-- A list of entries no two of which share a key. -/
structure OrderedMap (κ α : Type) where
  entries : List (κ × α)
  distinct : (entries.map Prod.fst).Nodup
  deriving DecidableEq

namespace OrderedMap

/-- Writes one entry into a list: in place when the key is present, else at the end. -/
def insertEntry (key : κ) (value : α) : List (κ × α) → List (κ × α)
  | [] => [(key, value)]
  | (k, v) :: rest =>
    if k = key then (key, value) :: rest else (k, v) :: insertEntry key value rest

theorem keys_insertEntry (key : κ) (value : α) (entries : List (κ × α)) :
    (insertEntry key value entries).map Prod.fst =
      if key ∈ entries.map Prod.fst then entries.map Prod.fst
      else entries.map Prod.fst ++ [key] := by
  induction entries with
  | nil => simp [insertEntry]
  | cons entry rest ih =>
    obtain ⟨k, v⟩ := entry
    by_cases h : k = key
    · subst h; simp [insertEntry]
    · have h' : key ≠ k := fun e => h e.symm
      by_cases member : key ∈ rest.map Prod.fst <;> simp_all [insertEntry]

theorem distinct_insertEntry (key : κ) (value : α) {entries : List (κ × α)}
    (distinct : (entries.map Prod.fst).Nodup) :
    ((insertEntry key value entries).map Prod.fst).Nodup := by
  rw [keys_insertEntry]
  split
  · exact distinct
  · next absent =>
    rw [List.nodup_append]
    exact ⟨distinct, by simp, by intro a ha b hb e; simp_all⟩

def empty : OrderedMap κ α := ⟨[], by simp⟩

instance : Inhabited (OrderedMap κ α) := ⟨empty⟩

/-- The keys, in the order in which they were first written. -/
def keys (m : OrderedMap κ α) : List κ := m.entries.map Prod.fst

def size (m : OrderedMap κ α) : Nat := m.entries.length

def find? (m : OrderedMap κ α) (key : κ) : Option α := m.entries.lookup key

def contains (m : OrderedMap κ α) (key : κ) : Bool := (m.find? key).isSome

def insert (m : OrderedMap κ α) (key : κ) (value : α) : OrderedMap κ α :=
  ⟨insertEntry key value m.entries, distinct_insertEntry key value m.distinct⟩

/-- Writes a list of entries from left to right, so that the last value of a key counts. -/
def insertAll (m : OrderedMap κ α) (entries : List (κ × α)) : OrderedMap κ α :=
  entries.foldl (fun m entry => m.insert entry.1 entry.2) m

def ofList (entries : List (κ × α)) : OrderedMap κ α := empty.insertAll entries

/-- Keeps the entries whose key passes the test, in their order. -/
def filterKeys (m : OrderedMap κ α) (keep : κ → Bool) : OrderedMap κ α :=
  ⟨m.entries.filter fun entry => keep entry.1,
    (List.Sublist.map Prod.fst List.filter_sublist).nodup m.distinct⟩

def erase (m : OrderedMap κ α) (key : κ) : OrderedMap κ α := m.filterKeys (· ≠ key)

/-- The same pairs, whatever their order, for a given notion of equal values. -/
def agrees (same : α → α → Bool) (a b : OrderedMap κ α) : Bool :=
  a.size == b.size && a.entries.all fun entry =>
    match b.find? entry.1 with
    | some other => same entry.2 other
    | none => false

@[simp]
theorem keys_insert (m : OrderedMap κ α) (key : κ) (value : α) :
    (m.insert key value).keys = if key ∈ m.keys then m.keys else m.keys ++ [key] :=
  keys_insertEntry key value m.entries

@[simp]
theorem find?_insert (m : OrderedMap κ α) (key other : κ) (value : α) :
    (m.insert key value).find? other = if other = key then some value else m.find? other := by
  simp only [find?, insert]
  induction m.entries with
  | nil =>
    by_cases h : other = key
    · simp [insertEntry, h]
    · have unequal : (other == key) = false := by simpa using h
      simp [insertEntry, List.lookup_cons, unequal, h]
  | cons entry rest ih =>
    obtain ⟨k, v⟩ := entry
    by_cases h : k = key
    · subst h
      by_cases h' : other = k
      · simp [insertEntry, h']
      · have unequal : (other == k) = false := by simpa using h'
        simp [insertEntry, List.lookup_cons, unequal, h']
    · by_cases h' : other = k
      · subst h'; simp [insertEntry, h]
      · have unequal : (other == k) = false := by simpa using h'
        simp [insertEntry, h, List.lookup_cons, unequal, ih]

omit [DecidableEq κ] in
@[simp]
theorem keys_filterKeys (m : OrderedMap κ α) (keep : κ → Bool) :
    (m.filterKeys keep).keys = m.keys.filter keep := by
  simp only [keys, filterKeys]
  induction m.entries with
  | nil => rfl
  | cons entry rest ih => cases kept : keep entry.1 <;> simp [kept, ih]

@[simp]
theorem find?_filterKeys (m : OrderedMap κ α) (keep : κ → Bool) (key : κ) :
    (m.filterKeys keep).find? key = if keep key then m.find? key else none := by
  simp only [find?, filterKeys]
  induction m.entries with
  | nil => simp
  | cons entry rest ih =>
    obtain ⟨k, v⟩ := entry
    by_cases h : key = k
    · subst h
      cases kept : keep key <;> simp [kept, ih]
    · have unequal : (key == k) = false := by simpa using h
      cases kept : keep k <;> simp [kept, List.lookup_cons, unequal, ih]

@[simp]
theorem keys_erase (m : OrderedMap κ α) (key : κ) :
    (m.erase key).keys = m.keys.filter (· ≠ key) :=
  keys_filterKeys m _

@[simp]
theorem find?_erase (m : OrderedMap κ α) (key other : κ) :
    (m.erase key).find? other = if other = key then none else m.find? other := by
  rw [erase, find?_filterKeys]
  by_cases h : other = key <;> simp [h]

end OrderedMap

end LootScript
