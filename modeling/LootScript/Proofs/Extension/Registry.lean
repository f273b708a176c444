import LootScript.Extension.Store
import LootScript.Proofs.Fault
import LootScript.Proofs.Identifier
import LootScript.Proofs.OrderedMap
import Mathlib.Data.List.Sort
import Mathlib.Data.String.Basic

/-!
# What a registry holds

A registry is made of written entries if each of their keys is an identifier, and otherwise the
first key that is none is reported. Entries whose keys are spellings of one identifier are one entry
of the registry, and the last of them counts. The identifiers of a registry are listed once each, in
the order of their texts, and the listed ones are those that some key is read as.
-/
namespace LootScript

namespace Registry

variable {entries rest : List (String × Json)} {registry result : Registry} {id : Identifier}
  {key : String} {value definition : Json}

/-! ## Reading the keys -/

theorem reports_insertEntries (registry : Registry) (entries : List (String × Json)) :
    Reports (entries.flatMap fun entry => faultOf (Identifier.parse entry.1))
      (insertEntries registry entries) := by
  induction entries generalizing registry with
  | nil => rfl
  | cons entry rest ih =>
    obtain ⟨key, definition⟩ := entry
    rw [insertEntries, List.flatMap_cons]
    -- The match does what a bind would do.
    have whole := (reports_faultOf (Identifier.parse key)).bind fun id _ =>
      ih (registry.insert id definition)
    cases parsed : Identifier.parse key <;> rwa [parsed] at whole

/-! ## Entries -/

/-- The definition of the last entry whose key is read as the identifier. -/
def IsLast (entries : List (String × Json)) (id : Identifier) (definition : Json) : Prop :=
  ∃ before key after, entries = before ++ (key, definition) :: after ∧
    Identifier.parse key = .ok id ∧ ∀ later ∈ after, Identifier.parse later.1 ≠ .ok id

theorem isLast_cons_iff :
    IsLast ((key, value) :: rest) id definition ↔ IsLast rest id definition ∨
      Identifier.parse key = .ok id ∧ value = definition ∧
        ∀ later ∈ rest, Identifier.parse later.1 ≠ .ok id := by
  constructor
  · rintro ⟨before, key', after, split, read, others⟩
    cases before with
    | nil =>
      cases split
      exact .inr ⟨read, rfl, others⟩
    | cons first before =>
      cases split
      exact .inl ⟨before, key', after, rfl, read, others⟩
  · rintro (⟨before, key', after, rfl, read, others⟩ | ⟨read, rfl, others⟩)
    · exact ⟨(key, value) :: before, key', after, rfl, read, others⟩
    · exact ⟨[], key, rest, rfl, read, others⟩

/-- What was in the registry before shows through where no key is read as the identifier. -/
theorem find?_insertEntries (inserted : insertEntries registry entries = .ok result) :
    result.find? id = some definition ↔ IsLast entries id definition ∨
      (∀ entry ∈ entries, Identifier.parse entry.1 ≠ .ok id) ∧
        registry.find? id = some definition := by
  -- The registry is general in the induction: later entries are put into what earlier ones made.
  induction entries generalizing registry with
  | nil =>
    cases inserted
    simp [IsLast]
  | cons entry rest ih =>
    obtain ⟨key, value⟩ := entry
    rw [insertEntries] at inserted
    split at inserted
    · cases inserted
    · next other read =>
      -- The new entry counts if it has this identifier and no later one does.
      rw [ih inserted, isLast_cons_iff, OrderedMap.find?_insert, List.forall_mem_cons, read]
      by_cases same : id = other
      · subst same
        simp [and_comm]
      · have different : other ≠ id := fun equal => same equal.symm
        simp [same, different]

theorem mem_keys_insertEntries (inserted : insertEntries registry entries = .ok result) :
    id ∈ result.keys ↔
      (∃ entry ∈ entries, Identifier.parse entry.1 = .ok id) ∨ id ∈ registry.keys := by
  induction entries generalizing registry with
  | nil =>
    cases inserted
    simp
  | cons entry rest ih =>
    obtain ⟨key, value⟩ := entry
    rw [insertEntries] at inserted
    split at inserted
    · cases inserted
    · next other read =>
      rw [ih inserted, OrderedMap.mem_keys_insert]
      simp only [List.exists_mem_cons_iff, read, Except.ok.injEq]
      rw [or_assoc, or_left_comm, eq_comm]

/-! ## Made of entries -/

section Made

variable (made : ofEntries entries = .ok registry)

include made

theorem find?_ofEntries : registry.find? id = some definition ↔ IsLast entries id definition := by
  rw [find?_insertEntries made]
  simp [OrderedMap.find?, OrderedMap.empty]

theorem mem_keys_ofEntries :
    id ∈ registry.keys ↔ ∃ entry ∈ entries, Identifier.parse entry.1 = .ok id := by
  rw [mem_keys_insertEntries made]
  simp [OrderedMap.keys, OrderedMap.empty]

theorem find?_ofEntries_eq_none :
    registry.find? id = none ↔ ∀ entry ∈ entries, Identifier.parse entry.1 ≠ .ok id := by
  rw [OrderedMap.find?_eq_none_iff, mem_keys_ofEntries made]
  simp

theorem wellFormed_of_mem_keys (held : id ∈ registry.keys) : id.WellFormed := by
  obtain ⟨entry, _, read⟩ := (mem_keys_ofEntries made).mp held
  exact Identifier.wellFormed_of_parse read

/-! ## Identifiers -/

theorem mem_identifiers {text : String} :
    text ∈ registry.identifiers ↔
      ∃ entry ∈ entries, ∃ id, Identifier.parse entry.1 = .ok id ∧ text = id.text := by
  rw [identifiers, List.mem_mergeSort, List.mem_map]
  constructor
  · rintro ⟨id, held, rfl⟩
    obtain ⟨entry, member, read⟩ := (mem_keys_ofEntries made).mp held
    exact ⟨entry, member, id, read, rfl⟩
  · rintro ⟨entry, member, id, read, rfl⟩
    exact ⟨id, (mem_keys_ofEntries made).mpr ⟨entry, member, read⟩, rfl⟩

theorem pairwise_identifiers : registry.identifiers.Pairwise (· < ·) := by
  have sorted : registry.identifiers.Pairwise (· ≤ ·) := List.pairwise_mergeSort' (· ≤ ·) _
  -- Sorting alone leaves room for equal texts, but different identifiers are written differently.
  have once : registry.identifiers.Nodup := by
    rw [identifiers, (List.mergeSort_perm _ _).nodup_iff]
    refine List.Nodup.map_on ?_ registry.distinct
    intro id held id' held' same
    exact Identifier.text_injective_of_wellFormed (wellFormed_of_mem_keys made held)
      (wellFormed_of_mem_keys made held') same
  exact sorted.imp₂ (fun _ _ => lt_of_le_of_ne) once

end Made

end Registry

/-! ## Looking up -/

namespace Store

variable {found : Option Json} {definition : Json}

theorem present_eq_some_iff :
    present found = some definition ↔ definition ≠ .null ∧ found = some definition := by
  unfold present
  split
  · simp [eq_comm]
  · next other =>
    constructor
    · rintro rfl
      exact ⟨fun null => other (congrArg some null), rfl⟩
    · exact And.right

theorem present_eq_none_iff : present found = none ↔ found = some .null ∨ found = none := by
  unfold present
  split <;> simp_all

end Store

namespace Registry

/--
A registry can be made of entries exactly if all of their keys are identifiers; otherwise the first
key that is none is reported. Looking an identifier up gives the definition of the last entry whose
key is read as that identifier, where null is the same as no definition. The identifiers are listed
in strictly ascending order, and are those that the keys are read as.
-/
theorem ofEntries_exact (entries : List (String × Json)) :
    ((∃ registry, ofEntries entries = .ok registry) ↔
      ∀ entry ∈ entries, ∃ id, Identifier.parse entry.1 = .ok id) ∧
    (∀ failure, ofEntries entries = .error failure ↔
      ∃ before entry after, entries = before ++ entry :: after ∧
        (∀ earlier ∈ before, ∃ id, Identifier.parse earlier.1 = .ok id) ∧
        Identifier.parse entry.1 = .error failure) ∧
    ∀ registry, ofEntries entries = .ok registry →
      (∀ files id,
        (∀ definition, (Store.registry registry).lookup files id = .ok (some definition) ↔
          definition ≠ .null ∧ IsLast entries id definition) ∧
        ((Store.registry registry).lookup files id = .ok none ↔
          IsLast entries id .null ∨ ∀ entry ∈ entries, Identifier.parse entry.1 ≠ .ok id)) ∧
      registry.identifiers.Pairwise (· < ·) ∧
      ∀ text, text ∈ registry.identifiers ↔
        ∃ entry ∈ entries, ∃ id, Identifier.parse entry.1 = .ok id ∧ text = id.text := by
  have reports := reports_insertEntries .empty entries
  refine ⟨?_, fun failure => ?_, fun registry made => ⟨fun files id => ⟨fun definition => ?_, ?_⟩,
    pairwise_identifiers made, fun text => mem_identifiers made⟩⟩
  · rw [ofEntries, reports.exists_ok_iff, List.flatMap_eq_nil_iff]
    simp only [(reports_faultOf _).exists_ok_iff]
  · rw [ofEntries, reports.flatMap_eq_error_iff]
    simp only [(reports_faultOf _).exists_ok_iff, (reports_faultOf _).eq_error_iff]
  · rw [Store.lookup, Except.ok.injEq, Store.present_eq_some_iff, find?_ofEntries made]
  · rw [Store.lookup, Except.ok.injEq, Store.present_eq_none_iff, find?_ofEntries made,
      find?_ofEntries_eq_none made]

/-- Two identifiers in two spellings each; the last definition of the second one is null. -/
theorem ofEntries_exact_of_spellings :
    let entries := [("b", Json.bool true), ("minecraft:a", .null), ("a", .bool false),
      ("minecraft:b", .null)]
    ∃ registry, ofEntries entries = .ok registry ∧
      ∀ files, (Store.registry registry).lookup files ⟨"minecraft", "a"⟩ =
          .ok (some (.bool false)) ∧
        (Store.registry registry).lookup files ⟨"minecraft", "b"⟩ = .ok none ∧
        registry.identifiers.Pairwise (· < ·) ∧ "minecraft:b" ∈ registry.identifiers := by
  intro entries
  have first : Identifier.parse "a" = .ok ⟨"minecraft", "a"⟩ := rfl
  have second : Identifier.parse "minecraft:b" = .ok ⟨"minecraft", "b"⟩ := rfl
  have made : ofEntries entries = .ok _ := rfl
  obtain ⟨looked, ascending, listed⟩ := (ofEntries_exact entries).2.2 _ made
  refine ⟨_, made, fun files => ⟨?_, ?_, ascending, ?_⟩⟩
  · apply ((looked files _).1 _).mpr
    exact ⟨nofun, entries.take 2, "a", entries.drop 3, rfl, first, by simp [entries, second]⟩
  · apply (looked files _).2.mpr
    exact .inl ⟨entries.take 3, "minecraft:b", [], rfl, second, nofun⟩
  · apply (listed _).mpr
    exact ⟨("b", .bool true), by simp [entries], ⟨"minecraft", "b"⟩, rfl, rfl⟩

end Registry

end LootScript
