import LootScript.Proofs.OrderedMap
import LootScript.Proofs.Script.Judgement
import Mathlib.Data.List.Basic

/-!
# The first definition in a chain

A chain of registries and directories answers for an identifier as the first store does that holds a
definition of it. Stores behind that one are not asked, and a definition of the wrong form is
reported, not passed over. The exception is a definition that is null: it passes for none, so that
the search goes on behind it.
-/
namespace LootScript

namespace Store

variable {files : FileTree} {id : Identifier} {store : Store} {stores before after : List Store}
  {shown : String}

/-- A registry or a directory, which has definitions of its own. -/
inductive IsPlain : Store → Prop
  | registry (definitions : Registry) : IsPlain (.registry definitions)
  | directory (root : Path) : IsPlain (.directory root)

/-- There is an entry or a file for the identifier, whatever it contains. -/
inductive Holds (files : FileTree) (id : Identifier) : Store → Prop
  | entry {definitions : Registry} : id ∈ definitions.keys → Holds files id (.registry definitions)
  | file {root path : Path} : ScriptDirectory.pathFor files root id = .ok (some path) →
    Holds files id (.directory root)

/-- There is neither an entry nor a file, and that could be found out. -/
inductive Lacks (files : FileTree) (id : Identifier) : Store → Prop
  | entry {definitions : Registry} : id ∉ definitions.keys → Lacks files id (.registry definitions)
  | file {root : Path} : ScriptDirectory.pathFor files root id = .ok none →
    Lacks files id (.directory root)

/-- What the entry or the file contains, if that is JSON. -/
inductive Gives (files : FileTree) (id : Identifier) : Store → Json → Prop
  | entry {definitions : Registry} {definition : Json} :
    definitions.find? id = some definition → Gives files id (.registry definitions) definition
  | file {root path : Path} {content : ByteArray} {definition : Json} :
    ScriptDirectory.pathFor files root id = .ok (some path) → files.read path = .ok content →
    Json.decode? content = some definition → Gives files id (.directory root) definition

/-! ## Single stores -/

theorem lookup_of_lacks (lacks : store.Lacks files id) : store.lookup files id = .ok none := by
  cases lacks with
  | @entry definitions absent =>
    have nothing := OrderedMap.find?_eq_none_iff.mpr absent
    rw [lookup, nothing]
    rfl
  | @file root none =>
    have nothing : ScriptDirectory.lookup files root id = .ok Option.none := by
      simp only [ScriptDirectory.lookup, none]
    rw [lookup, nothing]
    rfl

theorem lookup_of_gives {definition : Json} (gives : store.Gives files id definition) :
    store.lookup files id = .ok (present (some definition)) := by
  cases gives with
  | entry found => rw [lookup, found]
  | @file root path content _ searched read decoded =>
    have found : ScriptDirectory.lookup files root id = .ok (some definition) := by
      simp only [ScriptDirectory.lookup, searched, read, decoded]
    rw [lookup, found]
    rfl

theorem Gives.unique {one other : Json} (gives : store.Gives files id one)
    (gives' : store.Gives files id other) : one = other := by
  cases gives with
  | entry found =>
    cases gives' with
    | entry found' => exact Option.some.inj (found.symm.trans found')
  | file searched read decoded =>
    cases gives' with
    | file searched' read' decoded' =>
      rw [searched] at searched'
      cases searched'
      rw [read] at read'
      cases read'
      exact Option.some.inj (decoded.symm.trans decoded')

theorem present_of_ne_null {definition : Json} (real : definition ≠ .null) :
    present (some definition) = some definition := by
  unfold present
  split
  · next null => exact absurd (Option.some.inj null) real
  · rfl

/-- A file that gives no definition is reported by its identifier. -/
theorem gives_or_unreadable (holds : store.Holds files id) :
    (∃ definition, store.Gives files id definition) ∨
      ∃ cause, store.lookup files id =
        .error (.scriptBy .unreadableExtension (.str id.text) cause) := by
  cases holds with
  | @entry definitions present =>
    have found : definitions.find? id ≠ none := by
      rw [ne_eq, OrderedMap.find?_eq_none_iff]
      exact fun absent => absent present
    obtain ⟨definition, found⟩ := Option.ne_none_iff_exists'.mp found
    exact .inl ⟨definition, .entry found⟩
  | @file root path searched =>
    cases read : files.read path with
    | error cause =>
      refine .inr ⟨cause, ?_⟩
      simp only [lookup, ScriptDirectory.lookup, searched, read, Except.map]
    | ok content =>
      cases decoded : Json.decode? content with
      | none =>
        refine .inr ⟨.notJson, ?_⟩
        simp only [lookup, ScriptDirectory.lookup, searched, read, decoded, Except.map]
      | some definition => exact .inl ⟨definition, .file searched read decoded⟩

theorem lookup_ne_none (holds : store.Holds files id) (real : ¬store.Gives files id .null) :
    store.lookup files id ≠ .ok none := by
  intro nothing
  rcases gives_or_unreadable holds with ⟨definition, gives⟩ | ⟨cause, failed⟩
  · have other : definition ≠ .null := by
      rintro rfl
      exact real gives
    rw [lookup_of_gives gives, present_of_ne_null other] at nothing
    cases nothing
  · rw [failed] at nothing
    cases nothing

theorem lookup_eq_none_iff (plain : store.IsPlain) :
    store.lookup files id = .ok none ↔ store.Lacks files id ∨ store.Gives files id .null := by
  constructor
  · intro nothing
    by_cases null : store.Gives files id .null
    · exact .inr null
    · left
      -- That nothing is held is not enough: a directory may be unable to tell.
      have empty : ¬store.Holds files id := fun holds => lookup_ne_none holds null nothing
      cases plain with
      | registry definitions => exact .entry fun present => empty (.entry present)
      | directory root =>
        cases searched : ScriptDirectory.pathFor files root id with
        | error failure =>
          rw [lookup, ScriptDirectory.lookup, searched] at nothing
          cases nothing
        | ok found =>
          cases found with
          | none => exact .file searched
          | some path => exact absurd (.file searched) empty
  · rintro (lacks | null)
    · exact lookup_of_lacks lacks
    · exact lookup_of_gives null

/-! ## Chains -/

theorem lookupFirst_append (nothing : ∀ store ∈ before, store.lookup files id = .ok none)
    (rest : List Store) :
    lookupFirst files id (before ++ rest) = lookupFirst files id rest := by
  induction before with
  | nil => rfl
  | cons store others ih =>
    obtain ⟨first, later⟩ := List.forall_mem_cons.mp nothing
    rw [List.cons_append, lookupFirst, first]
    exact ih later

theorem lookupFirst_cons (decides : store.lookup files id ≠ .ok none) (after : List Store) :
    lookupFirst files id (store :: after) = store.lookup files id := by
  rw [lookupFirst]
  split
  · next nothing => exact absurd nothing decides
  · rfl

theorem lookupFirst_eq_none_iff :
    lookupFirst files id stores = .ok none ↔
      ∀ store ∈ stores, store.lookup files id = .ok none := by
  induction stores with
  | nil => simp [lookupFirst]
  | cons store rest ih =>
    rw [List.forall_mem_cons, ← ih]
    constructor
    · intro nothing
      by_cases first : store.lookup files id = .ok none
      · rw [lookupFirst, first] at nothing
        exact ⟨first, nothing⟩
      · rw [lookupFirst_cons first] at nothing
        exact absurd nothing first
    · rintro ⟨first, later⟩
      rw [lookupFirst, first]
      exact later

theorem eventsFirst_append (nothing : ∀ store ∈ before, store.lookup files id = .ok none)
    (rest : List Store) :
    eventsFirst files id (before ++ rest) =
      before.flatMap (events files id) ++ eventsFirst files id rest := by
  induction before with
  | nil => rfl
  | cons store others ih =>
    obtain ⟨first, later⟩ := List.forall_mem_cons.mp nothing
    rw [List.cons_append, eventsFirst, first, List.flatMap_cons, List.append_assoc]
    simp only [ih later]

theorem eventsFirst_cons (decides : store.lookup files id ≠ .ok none) (after : List Store) :
    eventsFirst files id (store :: after) = store.events files id := by
  rw [eventsFirst]
  split
  · next nothing => exact absurd nothing decides
  · rw [List.append_nil]

/-! ## Resolving -/

theorem resolve_of_lookup {one other : Store} (same : one.lookup files id = other.lookup files id) :
    (one.source files).resolve id shown = (other.source files).resolve id shown := by
  simp only [Source.resolve, source, same]

/-- Only what nothing is known of is unknown; every other failure has a name of its own. -/
theorem resolve_eq_unknown_iff :
    (∃ value, (store.source files).resolve id shown = .error (.script .unknownExtension value)) ↔
      store.lookup files id = .ok none := by
  constructor
  · rintro ⟨value, unknown⟩
    -- Neither a look-up that fails nor the reading of a definition says so.
    rw [Source.resolve] at unknown
    split at unknown
    · next failure failed =>
      cases unknown
      cases isWithheld_of_lookup store failed
    · next nothing => exact nothing
    · split at unknown
      · cases unknown
      · cases Script.isJudgement_of_ofShape unknown
  · intro nothing
    have looked : (store.source files).lookup id = .ok none := nothing
    refine ⟨.str shown, ?_⟩
    rw [Source.resolve, looked]

/-- A definition of the wrong form is reported with the reference that led to it. -/
theorem resolve_of_misshapen {definition : Json} {cause : Failure}
    (gives : store.Gives files id definition) (real : definition ≠ .null)
    (misshapen : ScriptShape.ofJson definition = .error cause) :
    (store.source files).resolve id shown =
      .error (.scriptBy .unreadableExtension (.str shown) cause) := by
  have looked : (store.source files).lookup id = .ok (some definition) := by
    rw [← present_of_ne_null real]
    exact lookup_of_gives gives
  simp only [Source.resolve, looked, misshapen]

/--
The first store of a chain that holds a definition decides alone what the identifier resolves to,
unless the definition is null: it is never unknown, no store behind is asked, and content of the
wrong form is reported as unreadable. An identifier is unknown exactly if each store lacks it or
gives null.
-/
theorem resolve_chain (files : FileTree) (stores : List Store) (id : Identifier) (shown : String)
    (plain : ∀ store ∈ stores, store.IsPlain) :
    let resolved (store : Store) := (store.source files).resolve id shown
    (∀ before first after, stores = before ++ first :: after →
      (∀ store ∈ before, store.Lacks files id) → first.Holds files id →
      ¬first.Gives files id .null →
      resolved (.chain stores) = resolved first ∧
      (∀ value, resolved (.chain stores) ≠ .error (.script .unknownExtension value)) ∧
      (∀ others, resolved (.chain (before ++ first :: others)) = resolved first ∧
        (Store.chain (before ++ first :: others)).events files id =
          before.flatMap (events files id) ++ first.events files id) ∧
      (∀ definition, first.Gives files id definition →
        ∀ cause, ScriptShape.ofJson definition = .error cause →
        resolved (.chain stores) = .error (.scriptBy .unreadableExtension (.str shown) cause)) ∧
      ((¬∃ definition, first.Gives files id definition) → ∃ cause,
        resolved (.chain stores) =
          .error (.scriptBy .unreadableExtension (.str id.text) cause))) ∧
    ((∃ value, resolved (.chain stores) = .error (.script .unknownExtension value)) ↔
      ∀ store ∈ stores, store.Lacks files id ∨ store.Gives files id .null) := by
  intro resolved
  constructor
  · rintro before first after rfl lacking holds real
    have nothing : ∀ store ∈ before, store.lookup files id = .ok none :=
      fun store member => lookup_of_lacks (lacking store member)
    have decides := lookup_ne_none holds real
    -- All that follows rests on this: for any stores behind, the look-up is that of the first one.
    have alone (others : List Store) :
        (Store.chain (before ++ first :: others)).lookup files id = first.lookup files id := by
      rw [lookup, lookupFirst_append nothing, lookupFirst_cons decides]
    have same (others : List Store) :
        resolved (.chain (before ++ first :: others)) = resolved first :=
      resolve_of_lookup (alone others)
    refine ⟨same after, ?_, fun others => ⟨same others, ?_⟩, ?_, ?_⟩
    · intro value unknown
      rw [same after] at unknown
      exact decides (resolve_eq_unknown_iff.mp ⟨value, unknown⟩)
    · rw [events, eventsFirst_append nothing, eventsFirst_cons decides]
    · intro definition gives cause misshapen
      have other : definition ≠ .null := by
        rintro rfl
        exact real gives
      rw [same after]
      exact resolve_of_misshapen gives other misshapen
    · intro unreadable
      rcases gives_or_unreadable holds with found | ⟨cause, failed⟩
      · exact absurd found unreadable
      · have looked : (first.source files).lookup id = _ := failed
        refine ⟨cause, ?_⟩
        rw [same after]
        simp only [resolved, Source.resolve, looked]
  · rw [resolve_eq_unknown_iff, lookup, lookupFirst_eq_none_iff]
    exact forall₂_congr fun store member => lookup_eq_none_iff (plain store member)

/-- A definition that is no object is reported, though a store behind it has a script. -/
theorem resolve_chain_misshapen :
    let id : Identifier := ⟨"minecraft", "a"⟩
    let files : FileTree :=
      ⟨[("minecraft", .directory [("a.megu", .file "[]".toUTF8)])], .present []⟩
    let before := [.registry (.ofList [(⟨"minecraft", "b"⟩, .obj [])]),
      .directory (.ofText "/missing")]
    let first : Store := .directory (.ofText "/")
    let after := [.registry (.ofList [(id, .obj [])])]
    let stores := before ++ first :: after
    (∀ store ∈ stores, store.IsPlain) ∧ (∀ store ∈ before, store.Lacks files id) ∧
      first.Holds files id ∧ ¬first.Gives files id .null ∧
      ((Store.chain stores).source files).resolve id "a" =
        .error (.scriptBy .unreadableExtension (.str "a") (.shape "script" "expected object")) := by
  intro id files before first after stores
  have plain : ∀ store ∈ stores, store.IsPlain := by
    simp only [stores, before, first, after, List.cons_append, List.nil_append,
      List.forall_mem_cons]
    exact ⟨.registry _, .directory _, .directory _, .registry _, by simp⟩
  have lacking : ∀ store ∈ before, store.Lacks files id := by
    simp only [before, List.forall_mem_cons]
    exact ⟨.entry (by decide +kernel), .file (by decide +kernel), by simp⟩
  have searched : ScriptDirectory.pathFor files (.ofText "/") id =
      .ok (some (.ofText "/minecraft/a.megu")) := by decide +kernel
  have read : files.read (.ofText "/minecraft/a.megu") = .ok "[]".toUTF8 := by rfl
  have decoded : Json.decode? "[]".toUTF8 = some (.arr []) := by decide +kernel
  have gives : first.Gives files id (.arr []) := .file searched read decoded
  have real : ¬first.Gives files id .null := by
    intro null
    cases gives.unique null
  refine ⟨plain, lacking, .file searched, real, ?_⟩
  have decided := (resolve_chain files stores id "a" plain).1 before first after rfl lacking
    (.file searched) real
  exact decided.2.2.2.1 (.arr []) gives _ rfl

/-- A null definition in the first store makes way for the script in the second one. -/
theorem resolve_chain_passes_null :
    let id : Identifier := ⟨"minecraft", "a"⟩
    let files : FileTree := ⟨[], .present []⟩
    let first : Store := .registry (.ofList [(id, .null)])
    let second : Store := .registry (.ofList [(id, .obj [("type", .str "second")])])
    let resolved (store : Store) := (store.source files).resolve id "a"
    first.Holds files id ∧ resolved first = .error (.script .unknownExtension (.str "a")) ∧
      resolved (.chain [first, second]) = .ok { Script.empty with kind := some "second" } := by
  intro id files first second resolved
  exact ⟨.entry (by decide +kernel), by decide +kernel, by decide +kernel⟩

end Store

end LootScript
