import LootScript.Proofs.Extension.Chain
import LootScript.Proofs.Script.Precedence
import LootScript.Script.Assembly

/-!
# What an outcome depends on

Compiling or combining asks a source for some identifiers, and for each of them only because of what
it was told about those before. So another source that tells the same about these identifiers leads
to the same outcome, be it a script or a failure, and is asked for the same identifiers. Entries of
a registry that are not asked for can be changed at will. A directory that holds none of the
identifiers can be put in front, as long as the system does not refuse to search it. A look-up that
fails for no fault of a script ends all of the work, with its own failure.
-/
namespace LootScript

variable {one other : Source} {met : List Identifier} {script : Script} {scripts : List Script}

/-! ## Walking over two sources -/

theorem Source.resolveText_of_lookup {reference : Reference}
    (same : other.lookup reference.identifier = one.lookup reference.identifier) :
    other.resolveText (.str reference.raw) = one.resolveText (.str reference.raw) := by
  rw [resolveText_raw, resolveText_raw, resolve, resolve, same]

/-- A source that tells the same about what is looked up leads up the same way. -/
theorem Source.climb_congr
    (same : ∀ id ∈ (one.climb met script).lookedUp, other.lookup id = one.lookup id) :
    other.climb met script = one.climb met script := by
  -- Up to each look-up the two walks are the same, so both make it.
  induction met, script using climb_induction one with
  | top met script plain climbed => rw [climbed, climb_of_base_eq_none plain]
  | circle met script reference written old climbed => rw [climbed, climb_of_mem written old]
  | refused met script reference failure written new refused climbed =>
    rw [climbed] at same ⊢
    have told := same reference.identifier (List.mem_singleton.mpr rfl)
    exact climb_of_error written new ((resolveText_of_lookup told).trans refused)
  | below met script reference parent written new resolved climbed ih =>
    rw [climbed, Lineage.lookedUp_below] at same
    obtain ⟨told, above⟩ := List.forall_mem_cons.mp same
    rw [climbed, climb_of_ok written new ((resolveText_of_lookup told).trans resolved), ih above]

/-! ## Jobs -/

/-- What is done over a source: one script is compiled, or several are combined. -/
inductive Job
  | compile (script : Script)
  | combine (scripts : List Script)

/-- The identifiers that scripts ask for when they are compiled, up to the first that fails. -/
def Script.lookedUpAll (source : Source) : List Script → List Identifier
  | [] => []
  | script :: rest => (source.lineage script).lookedUp ++ match script.compile source with
    | .ok _ => lookedUpAll source rest
    | .error _ => []

namespace Job

def outcome (source : Source) : Job → Except Failure Script
  | .compile script => script.compile source
  | .combine scripts => Script.combine scripts source

/-- The identifiers that are asked for, in their order. -/
def lookedUp (source : Source) : Job → List Identifier
  | .compile script => (source.lineage script).lookedUp
  | .combine scripts => Script.lookedUpAll source scripts

/-- What a job reports over a store. -/
def events (files : FileTree) (store : Store) : Job → List Event
  | .compile script => (script.compileOver files store).events
  | .combine scripts => (Script.combineOver files store scripts).events

end Job

theorem Source.lineage_congr
    (same : ∀ id ∈ (one.lineage script).lookedUp, other.lookup id = one.lookup id) :
    other.lineage script = one.lineage script :=
  climb_congr same

theorem Script.compile_congr
    (same : ∀ id ∈ (one.lineage script).lookedUp, other.lookup id = one.lookup id) :
    script.compile other = script.compile one := by
  rw [compile, compile, Source.lineage_congr same]

theorem Script.compileAll_congr (index : Nat)
    (same : ∀ id ∈ lookedUpAll one scripts, other.lookup id = one.lookup id) :
    compileAll other index scripts = compileAll one index scripts ∧
      lookedUpAll other scripts = lookedUpAll one scripts := by
  induction scripts generalizing index with
  | nil => exact ⟨rfl, rfl⟩
  | cons script rest ih =>
    rw [lookedUpAll] at same
    have first : ∀ id ∈ (one.lineage script).lookedUp, other.lookup id = one.lookup id :=
      fun id member => same id (List.mem_append_left _ member)
    simp only [compileAll, lookedUpAll, compile_congr first, Source.lineage_congr first]
    cases compiled : script.compile one with
    | error failure => exact ⟨rfl, rfl⟩
    | ok result =>
      -- Only after a success is anything asked for on behalf of the rest.
      rw [compiled] at same
      have later := ih (index + 1) fun id member => same id (List.mem_append_right _ member)
      simp only [later.1, later.2, and_self]

theorem Job.outcome_congr (job : Job)
    (same : ∀ id ∈ job.lookedUp one, other.lookup id = one.lookup id) :
    job.outcome other = job.outcome one ∧ job.lookedUp other = job.lookedUp one := by
  cases job with
  | compile script =>
    exact ⟨Script.compile_congr same, congrArg Lineage.lookedUp (Source.lineage_congr same)⟩
  | combine scripts =>
    obtain ⟨compiled, asked⟩ := Script.compileAll_congr 0 same
    refine ⟨?_, asked⟩
    simp only [outcome, Script.combine, compiled]

/-! ## Look-ups that fail -/

/-- What the first script that does not compile asks for is asked for when all are compiled. -/
theorem Script.mem_lookedUpAll {source : Source} {index : Nat} {id : Identifier}
    {failure : Failure} (fails : FailsFirstAt source scripts index failure)
    (here : scripts[index]? = some script) (asked : id ∈ (source.lineage script).lookedUp) :
    id ∈ lookedUpAll source scripts := by
  induction scripts generalizing index with
  | nil => simp at here
  | cons first rest ih =>
    rw [lookedUpAll]
    cases index with
    | zero =>
      cases here
      exact List.mem_append_left _ asked
    | succ index =>
      obtain ⟨compiled, done⟩ := fails.before 0 (Nat.succ_pos index) first rfl
      rw [done]
      exact List.mem_append_right _ (ih ((failsFirstAt_succ_iff done).mp fails) here)

/-- If a look-up fails, so does the script that it is made for, and none before that one. -/
theorem Script.failsFirstAt_of_lookup {source : Source} {id : Identifier} {failure : Failure}
    (asked : id ∈ lookedUpAll source scripts) (looked : source.lookup id = .error failure) :
    ∃ index, FailsFirstAt source scripts index failure := by
  induction scripts with
  | nil => cases asked
  | cons script rest ih =>
    rw [lookedUpAll] at asked
    -- It is asked for by the first script, or by a later one once this one has compiled.
    rcases List.mem_append.mp asked with first | later
    · exact ⟨0, failsFirstAt_zero_iff.mpr (compile_of_lookup first looked)⟩
    · split at later
      · next compiled done =>
        obtain ⟨index, fails⟩ := ih later
        exact ⟨index + 1, (failsFirstAt_succ_iff done).mpr fails⟩
      · cases later

namespace Job

variable {job : Job} {source : Source} {failure : Failure}

/-- The failures by which a job says that there is a fault in a script. -/
def isFault (failure : Failure) : Job → Bool
  | .compile _ => failure.isScriptFault
  | .combine _ => failure.isCombination

/-- A job that does not find a fault in a script fails as one of its look-ups does. -/
theorem lookup_of_outcome (failed : job.outcome source = .error failure) :
    job.isFault failure = true ∨ failure.isScriptFault = false ∧
      ∃ id ∈ job.lookedUp source, source.lookup id = .error failure := by
  cases job with
  | compile script =>
    cases fault : failure.isScriptFault with
    | true => exact .inl fault
    | false =>
      obtain ⟨id, asked, -, looked⟩ :=
        (Script.lookup_of_compile failed).resolve_left (by simp [fault])
      exact .inr ⟨rfl, id, asked, looked⟩
  | combine scripts =>
    obtain ⟨index, cause, fails, rfl⟩ := Script.combine_eq_error_iff.mp failed
    obtain ⟨script, here, uncompiled⟩ := fails.here
    rw [Script.atPosition]
    cases fault : cause.isScriptFault with
    | true => exact .inl rfl
    | false =>
      obtain ⟨id, asked, -, looked⟩ :=
        (Script.lookup_of_compile uncompiled).resolve_left (by simp [fault])
      exact .inr ⟨fault, id, Script.mem_lookedUpAll fails here asked, looked⟩

/-- A job makes nothing of the failure of a look-up, unless that is a fault of a script. -/
theorem outcome_of_lookup {id : Identifier} (asked : id ∈ job.lookedUp source)
    (looked : source.lookup id = .error failure) (faultless : failure.isScriptFault = false) :
    job.outcome source = .error failure := by
  cases job with
  | compile script => exact Script.compile_of_lookup asked looked
  | combine scripts =>
    obtain ⟨index, fails⟩ := Script.failsFirstAt_of_lookup asked looked
    have unnumbered : Script.atPosition index failure = failure := by
      rw [Script.atPosition, faultless]
      rfl
    exact Script.combine_eq_error_iff.mpr ⟨index, failure, fails, unnumbered.symm⟩

end Job

/-! ## What a job reports -/

/-- The identifier that is about to be asked for. -/
def Event.asked? : Event → Option Identifier
  | .compilingBase id => some id
  | _ => none

theorem ScriptDirectory.asked_events (files : FileTree) (root : Path) (id : Identifier) :
    (ScriptDirectory.events files root id).filterMap Event.asked? = [] := by
  have searching : (searchEvents files root id).filterMap Event.asked? = [] := by
    unfold searchEvents
    split
    · rfl
    · split <;> rfl
  rw [events, List.filterMap_append, searching, List.nil_append]
  split <;> rfl

namespace Store

mutual

theorem asked_events (files : FileTree) (id : Identifier) :
    (store : Store) → (store.events files id).filterMap Event.asked? = []
  | .registry _ => rfl
  | .directory root => ScriptDirectory.asked_events files root id
  | .chain stores => asked_eventsFirst files id stores

theorem asked_eventsFirst (files : FileTree) (id : Identifier) :
    (stores : List Store) → (eventsFirst files id stores).filterMap Event.asked? = []
  | [] => rfl
  | store :: rest => by
    rw [eventsFirst, List.filterMap_append, asked_events files id store, List.nil_append]
    split
    · exact asked_eventsFirst files id rest
    · rfl

end

/-- A store does not itself ask for anything. -/
theorem asked_resolveEvents (files : FileTree) (store : Store) (id : Identifier) :
    (store.resolveEvents files id).filterMap Event.asked? = [] := by
  rw [resolveEvents, List.filterMap_append, asked_events, List.nil_append]
  split <;> rfl

theorem asked_lineageEvents (files : FileTree) (store : Store) (lineage : Lineage) :
    (store.lineageEvents files lineage).filterMap Event.asked? = lineage.lookedUp := by
  obtain ⟨ancestors, ending⟩ := lineage
  have follow (reference : Reference) (later : List Event) :
      (Event.compilingBase reference.identifier ::
        store.resolveEvents files reference.identifier ++ later).filterMap Event.asked? =
        reference.identifier :: later.filterMap Event.asked? := by
    rw [List.filterMap_append, List.filterMap_cons, asked_resolveEvents]
    rfl
  simp only [lineageEvents, Lineage.lookedUp]
  induction ancestors with
  | nil =>
    cases ending with
    | top => rfl
    | circle reference => rfl
    | refused reference failure =>
      have last := follow reference []
      rw [List.append_nil] at last
      exact last
  | cons ancestor rest ih =>
    rw [List.flatMap_cons, List.append_assoc, follow, ih]
    rfl

end Store

theorem Script.asked_compileAllOver (files : FileTree) (store : Store) (index : Nat)
    (scripts : List Script) :
    (compileAllOver files store index scripts).events.filterMap Event.asked? =
      lookedUpAll (store.source files) scripts := by
  induction scripts generalizing index with
  | nil => rfl
  | cons script rest ih =>
    have first : (script.compileOver files store).events.filterMap Event.asked? =
        ((store.source files).lineage script).lookedUp :=
      store.asked_lineageEvents files _
    rw [compileAllOver, Traced.events_bind, List.filterMap_append, lookedUpAll,
      Traced.result_mapFailure]
    congr 1
    cases compiled : script.compile (store.source files) with
    | error failure => simp [compileOver, compiled, Except.mapError]
    | ok result =>
      simp only [compileOver, compiled, Except.mapError]
      rw [Traced.events_bind, List.filterMap_append, ih]
      split <;> simp [pure]

/-- A job says what it asks for, as it asks for it. -/
theorem Job.asked_events (job : Job) (files : FileTree) (store : Store) :
    (job.events files store).filterMap Event.asked? = job.lookedUp (store.source files) := by
  cases job with
  | compile script => exact store.asked_lineageEvents files _
  | combine scripts =>
    -- What is reported after the compilations is about the result.
    have removed (ids : List Identifier) :
        (ids.map Event.poolRemoved).filterMap Event.asked? = [] := by
      simp [List.filterMap_map, Event.asked?, Function.comp_def]
    rw [events, Script.combineOver, Traced.events_bind, List.filterMap_append,
      Script.asked_compileAllOver, lookedUp]
    split
    · rw [Traced.events_bind, List.filterMap_append, Script.withoutRemoved, removed]
      simp [Traced.events_bind, Traced.report, Event.asked?, pure]
    · simp

/-! ## Other registries, and directories in front -/

/-- A store in front that has nothing to tell about an identifier leaves it to the one behind. -/
theorem Store.lookup_chain_pair {files : FileTree} {front back : Store} {id : Identifier}
    (nothing : front.lookup files id = .ok none) :
    (Store.chain [front, back]).lookup files id = back.lookup files id := by
  rw [lookup, lookupFirst, nothing]
  by_cases silent : back.lookup files id = .ok none
  · simp only [lookupFirst, silent]
  · exact lookupFirst_cons silent []

/-- Where a directory holds nothing, the search finds nothing or is refused. -/
theorem Store.lacks_or_refused {files : FileTree} {root : Path} {id : Identifier}
    (empty : ¬(Store.directory root).Holds files id) :
    (Store.directory root).Lacks files id ∨
      ∃ failure, ScriptDirectory.pathFor files root id = .error failure := by
  cases searched : ScriptDirectory.pathFor files root id with
  | error failure => exact .inr ⟨failure, rfl⟩
  | ok found =>
    cases found with
    | none => exact .inl (.file searched)
    | some path => exact absurd (.file searched) empty

/--
A job has the same outcome over any other source that tells the same about the identifiers that it
asks for, which are those it says that it compiles. So its outcome over a registry stays when
entries are added, replaced or deleted that it does not ask for. It stays, too, when a directory is
put in front that holds none of what it asks for, unless the search for one of these is refused.
-/
theorem Job.outcome_depends_on_lookedUp (job : Job) (files : FileTree) (definitions : Registry) :
    let result (store : Store) := job.outcome (store.source files)
    let asked := job.lookedUp ((Store.registry definitions).source files)
    (∀ store, (job.events files store).filterMap Event.asked? =
      job.lookedUp (store.source files)) ∧
    (∀ one other : Source, (∀ id ∈ job.lookedUp one, other.lookup id = one.lookup id) →
      job.outcome other = job.outcome one ∧ job.lookedUp other = job.lookedUp one) ∧
    (∀ changed : Registry, (∀ id ∈ asked, changed.find? id = definitions.find? id) →
      result (.registry changed) = result (.registry definitions)) ∧
    (∀ id ∉ asked, (∀ definition,
        result (.registry (definitions.insert id definition)) = result (.registry definitions)) ∧
      result (.registry (definitions.erase id)) = result (.registry definitions)) ∧
    (∀ root, (∀ id ∈ asked, ¬(Store.directory root).Holds files id) →
      result (.chain [.directory root, .registry definitions]) = result (.registry definitions) ∨
        ∃ id ∈ asked, ∃ failure, ScriptDirectory.pathFor files root id = .error failure) := by
  intro result asked
  have registry (changed : Registry)
      (same : ∀ id ∈ asked, changed.find? id = definitions.find? id) :
      result (.registry changed) = result (.registry definitions) := by
    refine (outcome_congr job fun id member => ?_).1
    simp only [Store.source, Store.lookup, same id member]
  refine ⟨job.asked_events files, fun one other same => job.outcome_congr same, registry, ?_, ?_⟩
  · intro id unasked
    have apart (other : Identifier) (member : other ∈ asked) : other ≠ id := by
      rintro rfl
      exact unasked member
    constructor
    · intro definition
      refine registry _ fun other member => ?_
      rw [OrderedMap.find?_insert, if_neg (apart other member)]
    · refine registry _ fun other member => ?_
      rw [OrderedMap.find?_erase, if_neg (apart other member)]
  · intro root empty
    by_cases refused : ∃ id ∈ asked, ∃ failure,
        ScriptDirectory.pathFor files root id = .error failure
    · exact .inr refused
    · left
      refine (outcome_congr job fun id member => ?_).1
      rcases Store.lacks_or_refused (empty id member) with lacks | found
      · exact Store.lookup_chain_pair (Store.lookup_of_lacks lacks)
      · exact absurd ⟨id, member, found⟩ refused

/-! ## A directory that cannot be searched -/

section Overlong

variable {name : String} (overlong : FileTree.Overlong name)

include overlong

theorem Store.not_holds_overlong :
    ¬(Store.directory (.ofPlace [])).Holds ScriptDirectory.bare
      ⟨Identifier.defaultScope, name⟩ := by
  rintro ⟨⟩
  next path searched =>
    rw [Identifier.defaultScope, ScriptDirectory.pathFor_overlong overlong rfl] at searched
    cases searched

variable {reference : Reference} (raw : reference.raw = name)

include raw

theorem Reference.identifier_overlong :
    reference.identifier = ⟨Identifier.defaultScope, name⟩ := by
  have parsed := reference.parsed
  rw [raw, Script.parse_overlong overlong] at parsed
  exact (Except.ok.inj parsed).symm

theorem Source.resolveText_registry_overlong (files : FileTree) {definition : Json}
    (real : definition ≠ .null) (decoded : Script.ofJson definition = .ok script) :
    ((Store.registry (.ofList [(⟨Identifier.defaultScope, name⟩, definition)])).source
      files).resolveText (.str reference.raw) = .ok script := by
  have gives : (Store.registry (.ofList [(⟨Identifier.defaultScope, name⟩, definition)])).Gives
      files reference.identifier definition := by
    refine .entry ?_
    rw [Reference.identifier_overlong overlong raw]
    exact (OrderedMap.find?_insert .empty _ _ definition).trans (if_pos rfl)
  have found : ((Store.registry (.ofList [(⟨Identifier.defaultScope, name⟩, definition)])).source
      files).lookup reference.identifier = .ok (some definition) := by
    rw [← Store.present_of_ne_null real]
    exact Store.lookup_of_gives gives
  rw [resolveText_raw, resolve, found]
  obtain ⟨shape, formed, judged⟩ := bind_eq_ok_iff.mp decoded
  simp only [formed, judged]

/-- Whatever is behind a directory, it is not asked for a name that the system refuses. -/
theorem Source.resolveText_directory_overlong (behind : List Store) :
    ((Store.chain (.directory (.ofPlace []) :: behind)).source ScriptDirectory.bare).resolveText
      (.str reference.raw) = .error .system := by
  have missed : ScriptDirectory.pathFor ScriptDirectory.bare (.ofPlace []) ⟨"minecraft", name⟩ =
      .error .system := ScriptDirectory.pathFor_overlong overlong rfl
  rw [resolveText_raw, resolve, Reference.identifier_overlong overlong raw]
  simp only [Store.source, Store.lookup, Store.lookupFirst, ScriptDirectory.lookup,
    Identifier.defaultScope, missed, Except.map]

end Overlong

/--
A base script in a registry is no longer found when an empty directory is put in front: its name is
too long for a file, and the system refuses to look for it.
-/
theorem Job.outcome_behind_refusal :
    let id : Identifier := ⟨"minecraft", String.ofList (List.replicate 256 'n')⟩
    let registry := Store.registry (.ofList [(id, .obj [("type", .str "base")])])
    let directory := Store.directory (.ofPlace [])
    ∃ reference : Reference, reference.raw = String.ofList (List.replicate 256 'n') ∧
      let job := Job.combine [{ Script.empty with base := some reference }]
      let result (store : Store) := job.outcome (store.source ScriptDirectory.bare)
      (∀ id ∈ job.lookedUp (registry.source ScriptDirectory.bare),
        ¬directory.Holds ScriptDirectory.bare id) ∧
      result registry = .ok { Script.empty with kind := some "base" } ∧
      result (.chain [directory, registry]) = .error .system := by
  have overlong := FileTree.overlong_replicate
  generalize String.ofList (List.replicate 256 'n') = name at overlong
  intro id registry directory
  let reference : Reference := ⟨name, id, Script.parse_overlong overlong⟩
  refine ⟨reference, rfl, ?_⟩
  intro job result
  let script : Script := { Script.empty with base := some reference }
  let base : Script := { Script.empty with kind := some "base" }
  have resolved : (registry.source ScriptDirectory.bare).resolveText (.str reference.raw) =
      .ok base :=
    Source.resolveText_registry_overlong overlong rfl ScriptDirectory.bare (by simp) rfl
  have climbed : (registry.source ScriptDirectory.bare).lineage script =
      .below ⟨reference, base⟩ ⟨[], .top⟩ :=
    (Source.climb_of_ok rfl List.not_mem_nil resolved).trans
      (congrArg _ (Source.climb_of_base_eq_none rfl))
  have compiled : script.compile (registry.source ScriptDirectory.bare) = .ok base := by
    rw [Script.compile, climbed]
    rfl
  have refused : script.compile
      ((Store.chain [directory, registry]).source ScriptDirectory.bare) = .error .system := by
    have unresolved : ((Store.chain [directory, registry]).source
        ScriptDirectory.bare).resolveText (.str reference.raw) = .error .system :=
      Source.resolveText_directory_overlong overlong rfl [registry]
    rw [Script.compile, Source.lineage,
      Source.climb_of_error rfl List.not_mem_nil unresolved]
    rfl
  refine ⟨?_, ?_, ?_⟩
  · have asked : job.lookedUp (registry.source ScriptDirectory.bare) = [id] := by
      simp only [job, Job.lookedUp, Script.lookedUpAll, script] at climbed compiled ⊢
      rw [climbed, compiled]
      rfl
    rw [asked]
    intro other member
    rw [List.mem_singleton.mp member]
    exact Store.not_holds_overlong overlong
  · exact Script.combine_eq_ok_iff.mpr ⟨[base], .cons compiled .nil, rfl⟩
  · exact Script.combine_eq_error_iff.mpr
      ⟨0, .system, Script.failsFirstAt_zero_iff.mpr refused, rfl⟩

end LootScript
