import LootScript.Proofs.Drop.RoundTrip
import LootScript.Proofs.Script.Inheritance

/-!
# Reading scripts that were written

Like a drop, every script is written in a shape that is read back. The judgement of the shape gives
the script again if the script is well formed: if all its identifiers are, and all its drops are
valid. What is decoded or resolved is well formed, and compiling, absorbing, removing and combining
keep it so; hence whatever these bring about, in any order and over any sources, can be written down
and read again.
-/
namespace LootScript

namespace Script

structure WellFormed (script : Script) : Prop where
  pools : ∀ pool ∈ script.pools.entries, pool.1.WellFormed ∧ pool.2.Valid
  removals : ∀ id ∈ script.removals, id.WellFormed

/-- The shape in which a script is written. -/
def toShape (script : Script) : ScriptShape where
  type := script.kind
  extend := script.base.map Reference.raw
  pools := script.pools.entries.map fun pool => (pool.1.text, pool.2.toShape)
  remove := script.removals.map Identifier.text

/-! ## From the written form to the shape -/

private theorem readPools_map_toJson (entries : List (Identifier × Drop)) :
    ScriptShape.readPools (entries.map fun pool => (pool.1.text, pool.2.toJson)) =
      .ok (entries.map fun pool => (pool.1.text, pool.2.toShape)) := by
  induction entries with
  | nil => rfl
  | cons pool rest ih =>
    rw [List.map_cons, ScriptShape.readPools, Drop.ofJson_toJson, ih]
    rfl

private theorem readRemovals_map_text (index : Nat) (removals : List Identifier) :
    ScriptShape.readRemovals index (removals.map fun id => .str id.text) =
      .ok (removals.map Identifier.text) := by
  induction removals generalizing index with
  | nil => rfl
  | cons id rest ih =>
    rw [List.map_cons, ScriptShape.readRemovals, ih]
    rfl

/-- The fields of a written script, each of which may be left out but the pools. -/
def fields (script : Script) : List (String × Json) :=
  fieldIf "type" (script.kind.map .str) ++
    fieldIf "extend" ((script.base.map Reference.raw).map .str) ++
    fieldIf "pools" ((some (script.pools.entries.map
      fun pool => (pool.1.text, pool.2.toJson))).map .obj) ++
    fieldIf "remove" ((unlessEmpty (script.removals.map fun id => .str id.text)).map .arr)

theorem toJson_eq (script : Script) : script.toJson = .obj script.fields := by
  obtain ⟨kind, base, pools, removals⟩ := script
  unfold toJson fields
  cases kind <;> cases base <;> cases removals <;> rfl

theorem ofJson_toJson_shape (script : Script) :
    ScriptShape.ofJson script.toJson = .ok script.toShape := by
  have typed : FieldType.text.optional "script" "type" script.fields = .ok script.kind :=
    FieldType.optional_of_lookup .str (fun _ => rfl) (by simp)
      (by simp [fields, List.lookup_append])
  have extended : FieldType.text.optional "script" "extend" script.fields =
      .ok (script.base.map Reference.raw) :=
    FieldType.optional_of_lookup .str (fun _ => rfl) (by simp)
      (by simp [fields, List.lookup_append])
  have pooled : FieldType.object.optional "script" "pools" script.fields =
      .ok (some (script.pools.entries.map fun pool => (pool.1.text, pool.2.toJson))) :=
    FieldType.optional_of_lookup .obj (fun _ => rfl) (by simp)
      (by simp [fields, List.lookup_append])
  have removed : FieldType.list.optional "script" "remove" script.fields =
      .ok (unlessEmpty (script.removals.map fun id => .str id.text)) :=
    FieldType.optional_of_lookup .arr (fun _ => rfl) (by simp)
      (by simp [fields, List.lookup_append])
  rw [toJson_eq, ScriptShape.ofJson, typed, extended, pooled, removed]
  simp [bind, Except.bind, pure, Except.pure, readPools_map_toJson, readRemovals_map_text, toShape]

/-! ## Judging the shape of a written script -/

private theorem readPools_toShape (pools : OrderedMap Identifier Drop)
    {entries : List (Identifier × Drop)}
    (formed : ∀ pool ∈ entries, pool.1.WellFormed ∧ pool.2.Valid) :
    readPools pools (entries.map fun pool => (pool.1.text, pool.2.toShape)) =
      .ok (pools.insertAll entries) := by
  induction entries generalizing pools with
  | nil => rfl
  | cons pool rest ih =>
    obtain ⟨first, others⟩ := List.forall_mem_cons.mp formed
    rw [List.map_cons, readPools, Drop.ofShape_toShape pool.2 first.2,
      Identifier.parse_text first.1]
    exact ih (pools.insert pool.1 pool.2) others

private theorem parseAll_map_text {ids : List Identifier} (formed : ∀ id ∈ ids, id.WellFormed) :
    Identifier.parseAll (ids.map Identifier.text) = .ok ids := by
  rw [Identifier.parseAll]
  induction ids with
  | nil => rfl
  | cons id rest ih =>
    obtain ⟨first, others⟩ := List.forall_mem_cons.mp formed
    rw [List.map_cons, List.mapM_cons, Identifier.parse_text first, ih others]
    rfl

private theorem readBase_map_raw (base : Option Reference) :
    readBase (base.map Reference.raw) = .ok base := by
  cases base with
  | none => rfl
  | some reference =>
    rw [Option.map_some, readBase, Reference.parse_raw]
    rfl

theorem ofShape_toShape {script : Script} (formed : script.WellFormed) :
    ofShape script.toShape = .ok script := by
  have pools : readPools .empty script.toShape.pools = .ok script.pools := by
    rw [toShape, readPools_toShape .empty formed.pools, OrderedMap.empty_insertAll_entries]
  have base : readBase script.toShape.extend = .ok script.base := readBase_map_raw script.base
  have removals : Identifier.parseAll script.toShape.remove = .ok script.removals :=
    parseAll_map_text formed.removals
  rw [ofShape, pools, base, removals]
  rfl

theorem ofJson_toJson_of_wellFormed {script : Script} (formed : script.WellFormed) :
    ofJson script.toJson = .ok script := by
  rw [ofJson, ofJson_toJson_shape]
  exact ofShape_toShape formed

/-- The pools of a well-formed script are written under different texts. -/
theorem WellFormed.nodup_texts {script : Script} (formed : script.WellFormed) :
    (script.pools.keys.map Identifier.text).Nodup := by
  have distinct : script.pools.keys.Nodup := script.pools.distinct
  rw [List.nodup_map_iff_inj_on distinct]
  intro id member id' member' same
  obtain ⟨pool, listed, rfl⟩ := List.mem_map.mp member
  obtain ⟨pool', listed', rfl⟩ := List.mem_map.mp member'
  exact Identifier.text_injective_of_wellFormed (formed.pools pool listed).1
    (formed.pools pool' listed').1 same

/-! ## What is read is well formed -/

private theorem formed_of_readPools {pools read : OrderedMap Identifier Drop}
    {written : List (String × DropShape)}
    (formed : ∀ pool ∈ pools.entries, pool.1.WellFormed ∧ pool.2.Valid)
    (judged : readPools pools written = .ok read) :
    ∀ pool ∈ read.entries, pool.1.WellFormed ∧ pool.2.Valid := by
  induction written generalizing pools with
  | nil =>
    cases judged
    exact formed
  | cons first rest ih =>
    rw [readPools, bind_eq_ok_iff] at judged
    obtain ⟨drop, valid, judged⟩ := judged
    rw [bind_eq_ok_iff] at judged
    obtain ⟨id, parsed, judged⟩ := judged
    refine ih ?_ judged
    intro pool member
    rcases OrderedMap.mem_insertEntry member with rfl | old
    · exact ⟨Identifier.wellFormed_of_parse parsed, Drop.valid_of_ofShape first.2 valid⟩
    · exact formed pool old

private theorem formed_of_parseAll {texts : List String} {ids : List Identifier}
    (read : Identifier.parseAll texts = .ok ids) : ∀ id ∈ ids, id.WellFormed := by
  rw [Identifier.parseAll] at read
  induction texts generalizing ids with
  | nil =>
    cases read
    simp
  | cons text rest ih =>
    rw [List.mapM_cons, bind_eq_ok_iff] at read
    obtain ⟨id, parsed, read⟩ := read
    rw [bind_eq_ok_iff] at read
    obtain ⟨others, later, read⟩ := read
    cases read
    intro other member
    rcases List.mem_cons.mp member with rfl | member
    · exact Identifier.wellFormed_of_parse parsed
    · exact ih later other member

theorem wellFormed_of_ofShape {shape : ScriptShape} {script : Script}
    (judged : ofShape shape = .ok script) : script.WellFormed := by
  rw [ofShape, bind_eq_ok_iff] at judged
  obtain ⟨pools, pooled, judged⟩ := judged
  rw [bind_eq_ok_iff] at judged
  obtain ⟨base, _, judged⟩ := judged
  rw [bind_eq_ok_iff] at judged
  obtain ⟨removals, removed, judged⟩ := judged
  cases judged
  exact ⟨formed_of_readPools (by simp [OrderedMap.empty]) pooled, formed_of_parseAll removed⟩

theorem wellFormed_of_ofJson {value : Json} {script : Script}
    (read : ofJson value = .ok script) : script.WellFormed := by
  rw [ofJson, bind_eq_ok_iff] at read
  obtain ⟨shape, _, judged⟩ := read
  exact wellFormed_of_ofShape judged

theorem wellFormed_of_resolve {source : Source} {id : Identifier} {shown : String}
    {script : Script} (resolved : source.resolve id shown = .ok script) : script.WellFormed := by
  obtain ⟨definition, _, decoded⟩ := Source.lookup_of_resolve resolved
  exact wellFormed_of_ofJson decoded

/-! ## What keeps scripts well formed -/

theorem wellFormed_empty : empty.WellFormed :=
  ⟨by simp [empty, OrderedMap.empty], by simp [empty]⟩

theorem WellFormed.absorb {script other : Script} (formed : script.WellFormed)
    (formed' : other.WellFormed) : (script.absorb other).WellFormed := by
  constructor
  · intro pool member
    rcases OrderedMap.mem_insertAll member with below | above
    · exact formed.pools pool below
    · exact formed'.pools pool above
  · intro id member
    rcases List.mem_append.mp member with below | above
    · exact formed.removals id below
    · exact formed'.removals id above

theorem WellFormed.overlay {script other : Script} (formed : script.WellFormed)
    (formed' : other.WellFormed) : (script.overlay other).WellFormed :=
  ⟨(formed.absorb formed').pools, (formed.absorb formed').removals⟩

theorem WellFormed.applyRemovals {script : Script} (formed : script.WellFormed) :
    script.applyRemovals.WellFormed := by
  rw [applyRemovals_eq_keeping]
  refine ⟨?_, formed.removals⟩
  intro pool member
  exact formed.pools pool (List.mem_filter.mp member).1

theorem wellFormed_overlayAll {scripts : List Script}
    (formed : ∀ script ∈ scripts, script.WellFormed) : (overlayAll scripts).WellFormed := by
  -- The fold is well formed over any well-formed script, the empty one among them.
  have onto (start : Script) (first : start.WellFormed) :
      (scripts.foldl Script.overlay start).WellFormed := by
    induction scripts generalizing start with
    | nil => exact first
    | cons script rest ih =>
      obtain ⟨here, later⟩ := List.forall_mem_cons.mp formed
      exact ih later (start.overlay script) (first.overlay here)
  exact onto empty wellFormed_empty

theorem WellFormed.compile {source : Source} {script result : Script}
    (formed : script.WellFormed) (compiled : script.compile source = .ok result) :
    result.WellFormed := by
  -- All that is laid over one another is the script itself or was resolved on its walk.
  obtain ⟨ancestors, last, climbs, rfl⟩ := exists_climbs_of_compile compiled
  refine wellFormed_overlayAll ?_
  intro other member
  rcases List.mem_cons.mp (List.mem_reverse.mp member) with rfl | inherited
  · exact formed
  · obtain ⟨ancestor, listed, rfl⟩ := List.mem_map.mp inherited
    obtain ⟨id, shown, resolved⟩ := climbs.exists_resolve ancestor listed
    exact wellFormed_of_resolve resolved

theorem wellFormed_of_combine {source : Source} {scripts : List Script} {result : Script}
    (formed : ∀ script ∈ scripts, script.WellFormed)
    (combined : combine scripts source = .ok result) : result.WellFormed := by
  obtain ⟨compiled, each, rfl⟩ := combine_eq_ok_iff.mp combined
  refine (wellFormed_overlayAll ?_).applyRemovals
  clear combined
  induction each with
  | nil => simp
  | @cons script result scripts compiled first _ ih =>
    obtain ⟨here, later⟩ := List.forall_mem_cons.mp formed
    exact List.forall_mem_cons.mpr ⟨here.compile first, ih later⟩

/-! ## Reachable scripts -/

/-- What decoding, resolving, compiling, absorbing, removing and combining bring about. -/
inductive Reachable : Script → Prop
  | decoded {value : Json} {script : Script} : ofJson value = .ok script → Reachable script
  | resolved {source : Source} {id : Identifier} {shown : String} {script : Script} :
      source.resolve id shown = .ok script → Reachable script
  | compiled {source : Source} {script result : Script} : Reachable script →
      script.compile source = .ok result → Reachable result
  | absorbed {script other : Script} : Reachable script → Reachable other →
      Reachable (script.absorb other)
  | removed {script : Script} : Reachable script → Reachable script.applyRemovals
  | combined {source : Source} {scripts : List Script} {result : Script} :
      (∀ script ∈ scripts, Reachable script) → combine scripts source = .ok result →
      Reachable result

theorem Reachable.wellFormed {script : Script} (reachable : Reachable script) :
    script.WellFormed := by
  induction reachable with
  | decoded read => exact wellFormed_of_ofJson read
  | resolved found => exact wellFormed_of_resolve found
  | compiled _ outcome ih => exact ih.compile outcome
  | absorbed _ _ ih ih' => exact ih.absorb ih'
  | removed _ ih => exact ih.applyRemovals
  | combined _ outcome ih => exact wellFormed_of_combine ih outcome

/--
Every reachable script is read back from what is written of it: the same kind, the same reference
with its text, equal pools in the same order, each under a text of its own, and the same removals.
-/
theorem ofJson_toJson_of_reachable (script : Script) (reachable : Reachable script) :
    ofJson script.toJson = .ok script ∧ (script.pools.keys.map Identifier.text).Nodup :=
  ⟨ofJson_toJson_of_wellFormed reachable.wellFormed, reachable.wellFormed.nodup_texts⟩

/-- A script laid over itself. An empty name, no children and an empty list of them stay apart. -/
theorem ofJson_toJson_absorbed_itself :
    let value : Json := .obj [("type", .str ""), ("extend", .str "base"),
      ("pools", .obj [
        ("a", .obj [("type", .str "group"), ("unsafe", .bool true), ("children", .arr [
          .obj [("type", .str "item"), ("name", .str ""), ("functions", .arr [])],
          .obj [("type", .str "sequence"), ("unsafe", .bool true), ("children", .arr [])]])]),
        ("minecraft:b", .obj [("type", .str "tag"), ("conditions", .arr [.null])]),
        (":", .obj [("type", .str "empty"), ("unsafe", .null)])]),
      ("remove", .arr [.str "b", .str "x:"])]
    let script : Script := {
      kind := some ""
      base := some ⟨"base", ⟨"minecraft", "base"⟩, rfl⟩
      pools := .ofList [
        (⟨"minecraft", "a"⟩, ⟨.group, none, some [⟨.item, some "", none, [], []⟩,
          ⟨.sequence, none, some [], [], []⟩], [], []⟩),
        (⟨"minecraft", "b"⟩, ⟨.tag, none, none, [], [.null]⟩),
        (⟨"", ""⟩, ⟨.empty, none, none, [], []⟩)]
      removals := [⟨"minecraft", "b"⟩, ⟨"x", ""⟩] }
    let both := (script.absorb script).applyRemovals
    ofJson value = .ok script ∧ Reachable both ∧ ofJson both.toJson = .ok both ∧
      (both.pools.keys.map Identifier.text).Nodup := by
  intro value script both
  have decoded : ofJson value = .ok script := by decide +kernel
  have reachable : Reachable both := .removed (.absorbed (.decoded decoded) (.decoded decoded))
  have written := ofJson_toJson_of_reachable both reachable
  exact ⟨decoded, reachable, written.1, written.2⟩

end Script

end LootScript
