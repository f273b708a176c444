import LootScript.Proofs.Extension.Containment
import LootScript.Proofs.Identifier
import LootScript.Proofs.Script.Combination

/-!
# Precedence among combined scripts

What a combination is, read off the scripts it is made of. The last script that has a pool gives its
drop, the last one that names a kind gives the kind, and pools stand in the order in which they are
first met. A pool that any of the scripts removes is gone, also if a later one adds it again. If a
script does not compile, the first such script decides how the combination fails.
-/
namespace LootScript

namespace Script

/-- What scripts laid over one another amount to, the last one on top. -/
structure Layered (layers : List Script) (result : Script) : Prop where
  kind : result.kind = (layers.filterMap Script.kind).getLast?
  base : result.base = none
  removals : result.removals = layers.flatMap Script.removals
  present : ∀ id, id ∈ result.pools.keys ↔
    (∃ layer ∈ layers, id ∈ layer.pools.keys) ∧ ∀ layer ∈ layers, id ∉ layer.removals
  drop : ∀ below layer above id, layers = below ++ layer :: above → id ∈ layer.pools.keys →
    (∀ later ∈ above, id ∉ later.pools.keys) → id ∈ result.pools.keys →
    result.pools.find? id = layer.pools.find? id
  order : result.pools.keys =
    (layers.flatMap fun layer => layer.pools.keys).eraseDups.filter
      fun id => id ∉ layers.flatMap Script.removals

/-- The least index of a script that does not compile, and why it does not. -/
structure FailsFirstAt (source : Source) (scripts : List Script) (index : Nat)
    (cause : Failure) : Prop where
  here : ∃ script, scripts[index]? = some script ∧ script.compile source = .error cause
  before : ∀ i < index, ∀ script, scripts[i]? = some script →
    ∃ compiled, script.compile source = .ok compiled

variable {source : Source} {script : Script} {scripts layers : List Script} {index : Nat}
  {failure cause : Failure}

/-! ## Laying over -/

theorem find?_overlay (a b : Script) (id : Identifier) :
    (a.overlay b).pools.find? id = (b.pools.find? id).or (a.pools.find? id) :=
  OrderedMap.find?_insertAll a.pools b.pools.distinct id

theorem keys_overlay (a b : Script) :
    (a.overlay b).pools.keys =
      a.pools.keys ++ (b.pools.keys.removeAll a.pools.keys).eraseDups :=
  OrderedMap.keys_insertAll a.pools b.pools.entries

theorem overlayAll_concat (layers : List Script) (top : Script) :
    overlayAll (layers ++ [top]) = (overlayAll layers).overlay top := by
  rw [overlayAll, List.foldl_append]
  rfl

theorem kind_overlayAll (layers : List Script) :
    (overlayAll layers).kind = (layers.filterMap Script.kind).getLast? := by
  -- From the top layer downwards: it is the one that was laid over last.
  induction layers using List.reverseRecOn with
  | nil => rfl
  | append_singleton layers top ih =>
    rw [overlayAll_concat, List.filterMap_append, List.getLast?_append, ← ih]
    cases named : top.kind <;> simp [overlay, named]

theorem removals_overlayAll (layers : List Script) :
    (overlayAll layers).removals = layers.flatMap Script.removals := by
  induction layers using List.reverseRecOn with
  | nil => rfl
  | append_singleton layers top ih =>
    rw [overlayAll_concat, List.flatMap_append, List.flatMap_singleton, ← ih]
    rfl

theorem keys_overlayAll (layers : List Script) :
    (overlayAll layers).pools.keys =
      (layers.flatMap fun layer => layer.pools.keys).eraseDups := by
  induction layers using List.reverseRecOn with
  | nil => rfl
  | append_singleton layers top ih =>
    -- Whether a pool has been met does not depend on how often it was.
    have met (keys : List Identifier) :
        top.pools.keys.removeAll keys.eraseDups = top.pools.keys.removeAll keys := by
      simp [List.removeAll]
    rw [overlayAll_concat, keys_overlay, ih, met, List.flatMap_append, List.flatMap_singleton,
      List.eraseDups_append]

theorem mem_keys_overlayAll {id : Identifier} :
    id ∈ (overlayAll layers).pools.keys ↔ ∃ layer ∈ layers, id ∈ layer.pools.keys := by
  rw [keys_overlayAll, List.mem_eraseDups, List.mem_flatMap]

/-- The last layer that has a pool hides what the layers below it say of the pool. -/
theorem find?_overlayAll {below above : List Script} {layer : Script} {id : Identifier}
    (present : id ∈ layer.pools.keys) (last : ∀ later ∈ above, id ∉ later.pools.keys) :
    (overlayAll (below ++ layer :: above)).pools.find? id = layer.pools.find? id := by
  have above_none : (overlayAll above).pools.find? id = none := by
    rw [OrderedMap.find?_eq_none_iff, mem_keys_overlayAll]
    rintro ⟨later, member, found⟩
    exact last later member found
  have here : (layer.pools.find? id).isSome := by
    rw [Option.isSome_iff_ne_none, ne_eq, OrderedMap.find?_eq_none_iff]
    exact fun absent => absent present
  obtain ⟨drop, found⟩ := Option.isSome_iff_exists.mp here
  -- In three parts: what is above says nothing, the layer answers, and what is below is hidden.
  rw [← List.singleton_append, ← List.append_assoc, overlayAll_append, overlayAll_concat,
    find?_overlay, find?_overlay, above_none, found]
  rfl

/-! ## What remains after the removals -/

theorem keys_applyRemovals (script : Script) :
    script.applyRemovals.pools.keys = script.pools.keys.filter (· ∉ script.removals) := by
  rw [applyRemovals_eq_keeping]
  exact OrderedMap.keys_filterKeys _ _

theorem find?_applyRemovals {id : Identifier} (kept : id ∉ script.removals) :
    script.applyRemovals.pools.find? id = script.pools.find? id := by
  rw [applyRemovals_eq_keeping, keeping, OrderedMap.find?_filterKeys, if_pos (by simpa using kept)]

theorem layered_overlayAll (layers : List Script) :
    Layered layers (overlayAll layers).applyRemovals := by
  have removals := removals_overlayAll layers
  -- A drop is read off the layers before the removals, so its pool must not be among these.
  have kept (id : Identifier) (there : id ∈ (overlayAll layers).applyRemovals.pools.keys) :
      id ∉ (overlayAll layers).removals := by
    rw [keys_applyRemovals, List.mem_filter] at there
    simpa using there.2
  constructor
  case kind => exact kind_overlayAll layers
  case base => exact base_overlayAll layers
  case removals => exact removals
  case present =>
    intro id
    rw [keys_applyRemovals, List.mem_filter, mem_keys_overlayAll, removals]
    simp
  case drop =>
    rintro below layer above id rfl present last there
    rw [find?_applyRemovals (kept id there), find?_overlayAll present last]
  case order => rw [keys_applyRemovals, keys_overlayAll, removals]

/-- A pool that some layer has belongs to a last one of these. -/
theorem exists_last_layer {id : Identifier} (present : ∃ layer ∈ layers, id ∈ layer.pools.keys) :
    ∃ below layer above, layers = below ++ layer :: above ∧ id ∈ layer.pools.keys ∧
      ∀ later ∈ above, id ∉ later.pools.keys := by
  induction layers with
  | nil => simp at present
  | cons first rest ih =>
    -- The first layer is the last one that has the pool only if none of the rest has it.
    by_cases above : ∃ layer ∈ rest, id ∈ layer.pools.keys
    · obtain ⟨below, layer, later, rfl, here, last⟩ := ih above
      exact ⟨first :: below, layer, later, rfl, here, last⟩
    · have here : id ∈ first.pools.keys := by
        obtain ⟨layer, member, here⟩ := present
        rcases List.mem_cons.mp member with rfl | member
        · exact here
        · exact absurd ⟨layer, member, here⟩ above
      exact ⟨[], first, rest, rfl, here, fun later member found => above ⟨later, member, found⟩⟩

/-- There is only one way to read the layers. -/
theorem Layered.unique {a b : Script} (one : Layered layers a) (other : Layered layers b) :
    a = b := by
  have keys : a.pools.keys = b.pools.keys := one.order.trans other.order.symm
  -- Each pool has its drop from one and the same layer, the last one that has it.
  have pools : a.pools = b.pools := by
    refine OrderedMap.ext_find? keys fun id => ?_
    by_cases there : id ∈ a.pools.keys
    · obtain ⟨below, layer, above, split, here, last⟩ :=
        exists_last_layer ((one.present id).mp there).1
      rw [one.drop below layer above id split here last there,
        other.drop below layer above id split here last (keys ▸ there)]
    · rw [OrderedMap.find?_eq_none_iff.mpr there, OrderedMap.find?_eq_none_iff.mpr (keys ▸ there)]
  have kind := one.kind.trans other.kind.symm
  have base := one.base.trans other.base.symm
  have removals := one.removals.trans other.removals.symm
  obtain ⟨kind', base', pools', removals'⟩ := a
  simp only at kind base pools removals
  rw [kind, base, pools, removals]

/-! ## Failures -/

theorem failsFirstAt_zero_iff {rest : List Script} :
    FailsFirstAt source (script :: rest) 0 cause ↔ script.compile source = .error cause := by
  constructor
  · rintro ⟨⟨script', found, failed⟩, _⟩
    cases found
    exact failed
  · intro failed
    exact ⟨⟨script, rfl, failed⟩, by simp⟩

theorem failsFirstAt_succ_iff {compiled : Script} (first : script.compile source = .ok compiled)
    {rest : List Script} :
    FailsFirstAt source (script :: rest) (index + 1) cause ↔
      FailsFirstAt source rest index cause := by
  constructor
  · rintro ⟨here, before⟩
    exact ⟨here, fun i less other found => before (i + 1) (Nat.succ_lt_succ less) other found⟩
  · rintro ⟨here, before⟩
    refine ⟨here, fun i less other found => ?_⟩
    cases i with
    | zero =>
      cases found
      exact ⟨compiled, first⟩
    | succ i => exact before i (Nat.lt_of_succ_lt_succ less) other found

theorem compileAll_eq_error_iff (start : Nat) :
    compileAll source start scripts = .error failure ↔
      ∃ index cause, FailsFirstAt source scripts index cause ∧
        failure = atPosition (start + index) cause := by
  -- The rest is numbered from one further on, so the induction is for every start.
  induction scripts generalizing start with
  | nil =>
    constructor
    · intro failed
      cases failed
    · rintro ⟨index, cause, ⟨⟨script, found, _⟩, _⟩, _⟩
      simp at found
  | cons script rest ih =>
    rw [compileAll]
    cases first : script.compile source with
    | error cause =>
      constructor
      · intro failed
        cases failed
        exact ⟨0, cause, failsFirstAt_zero_iff.mpr first, rfl⟩
      · rintro ⟨index, other, fails, rfl⟩
        -- No script comes before the first one, so there is no other index.
        cases index with
        | zero =>
          have failed := failsFirstAt_zero_iff.mp fails
          rw [first] at failed
          cases failed
          rfl
        | succ index =>
          obtain ⟨compiled, ok⟩ := fails.before 0 (Nat.succ_pos index) script rfl
          rw [first] at ok
          cases ok
    | ok compiled =>
      simp only [map_eq_error_iff, ih]
      constructor
      · rintro ⟨index, cause, fails, rfl⟩
        refine ⟨index + 1, cause, (failsFirstAt_succ_iff first).mpr fails, ?_⟩
        rw [Nat.add_right_comm, Nat.add_assoc]
      · rintro ⟨index, cause, fails, rfl⟩
        cases index with
        | zero =>
          have failed := failsFirstAt_zero_iff.mp fails
          rw [first] at failed
          cases failed
        | succ index =>
          refine ⟨index, cause, (failsFirstAt_succ_iff first).mp fails, ?_⟩
          rw [Nat.add_right_comm, Nat.add_assoc]

theorem combine_eq_error_iff :
    combine scripts source = .error failure ↔
      ∃ index cause, FailsFirstAt source scripts index cause ∧
        failure = atPosition index cause := by
  simp only [combine, map_eq_error_iff, compileAll_eq_error_iff, Nat.zero_add]

theorem combine_eq_ok_iff_layered {result : Script} :
    combine scripts source = .ok result ↔
      ∃ compiled, CompileTo source scripts compiled ∧ Layered compiled result := by
  rw [combine_eq_ok_iff]
  constructor
  · rintro ⟨compiled, each, rfl⟩
    exact ⟨compiled, each, layered_overlayAll compiled⟩
  · rintro ⟨compiled, each, layered⟩
    exact ⟨compiled, each, (layered_overlayAll compiled).unique layered⟩

theorem exists_compileTo_iff :
    (∃ compiled, CompileTo source scripts compiled) ↔
      ∀ script ∈ scripts, ∃ compiled, script.compile source = .ok compiled := by
  induction scripts with
  | nil => simp [CompileTo]
  | cons script rest ih =>
    rw [List.forall_mem_cons, ← ih]
    constructor
    · rintro ⟨compiled, each⟩
      obtain ⟨result, others, first, later, rfl⟩ := List.forall₂_cons_left_iff.mp each
      exact ⟨⟨result, first⟩, others, later⟩
    · rintro ⟨⟨result, first⟩, others, later⟩
      exact ⟨result :: others, .cons first later⟩

/-! ## The meaning of a combination -/

/--
Scripts combine exactly if each of them compiles. Otherwise the first one that does not decides the
failure: a fault of its content is reported with its index, and any other failure is passed on as it
is. The result is what the scripts compile to, read as layers.
-/
theorem combine_meaning (source : Source) (scripts : List Script) :
    ((∃ result, combine scripts source = .ok result) ↔
      ∀ script ∈ scripts, ∃ compiled, script.compile source = .ok compiled) ∧
    (∀ failure, combine scripts source = .error failure ↔
      ∃ index cause, FailsFirstAt source scripts index cause ∧
        failure = if cause.isScriptFault then .combination index cause else cause) ∧
    (∀ result, combine scripts source = .ok result ↔
      ∃ compiled, CompileTo source scripts compiled ∧ Layered compiled result) := by
  refine ⟨?_, fun failure => combine_eq_error_iff, fun result => combine_eq_ok_iff_layered⟩
  rw [← exists_compileTo_iff]
  constructor
  · rintro ⟨result, combined⟩
    obtain ⟨compiled, each, _⟩ := combine_eq_ok_iff.mp combined
    exact ⟨compiled, each⟩
  · rintro ⟨compiled, each⟩
    exact ⟨_, combine_eq_ok_iff.mpr ⟨compiled, each, rfl⟩⟩

/-! ## A look-up that the system refuses -/

section Overlong

variable {name : String} (overlong : FileTree.Overlong name)

include overlong

theorem parse_overlong : Identifier.parse name = .ok ⟨Identifier.defaultScope, name⟩ := by
  apply Identifier.parse_of_parts
  · exact overlong.ne_of_short "" (by decide)
  · intro c member
    rw [overlong.letters c member]
    decide

theorem compile_overlong {files : FileTree} {entries : List (String × Entry)}
    (reached : files.root.lookup "minecraft" = some (.directory entries)) {script : Script}
    {reference : Reference} (written : script.base = some reference) (raw : reference.raw = name) :
    script.compile ((Store.directory (.ofPlace [])).source files) = .error .system := by
  have meant : reference.identifier = ⟨"minecraft", name⟩ := by
    have parsed := reference.parsed
    rw [raw, parse_overlong overlong] at parsed
    exact (Except.ok.inj parsed).symm
  have missed := ScriptDirectory.pathFor_overlong overlong reached
  have refused : ((Store.directory (.ofPlace [])).source files).resolveText
      (.str reference.raw) = .error .system := by
    rw [Source.resolveText_raw, Source.resolve, meant]
    simp only [Store.source, Store.lookup, ScriptDirectory.lookup, Except.map, missed]
  rw [compile, Source.lineage, Source.climb_of_error written List.not_mem_nil refused]
  rfl

end Overlong

/-- The failure of the first script is passed on without its index. -/
theorem combine_passes_refusal :
    let source := (Store.directory (.ofPlace [])).source ScriptDirectory.bare
    ∃ reference : Reference, reference.raw = String.ofList (List.replicate 256 'n') ∧
      let script : Script := { empty with base := some reference }
      script.compile source = .error .system ∧ combine [script] source = .error .system ∧
        ∀ index cause, combine [script] source ≠ .error (.combination index cause) := by
  intro source
  refine ⟨⟨_, _, parse_overlong FileTree.overlong_replicate⟩, rfl, ?_⟩
  intro script
  have failed : script.compile source = .error .system :=
    compile_overlong FileTree.overlong_replicate rfl rfl rfl
  have combined : combine [script] source = .error .system :=
    combine_eq_error_iff.mpr ⟨0, .system, failsFirstAt_zero_iff.mpr failed, rfl⟩
  refine ⟨failed, combined, ?_⟩
  intro index cause numbered
  rw [combined] at numbered
  cases numbered

end Script

end LootScript
