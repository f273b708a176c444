import LootScript.CommandLine.Run

/-!
# Quiet computations

Reading, resolving and combining report what they do, and warn, but never report an error: a failure
is left to whoever called. So the errors of a run are those that the run itself reports.
-/
namespace LootScript

namespace Log

theorem Level.debug_lt_error : Level.debug < Level.error := by decide

theorem Level.info_lt_error : Level.info < Level.error := by decide

theorem Level.warning_lt_error : Level.warning < Level.error := by decide

/-- Nothing that is reported is an error. -/
def Quiet (events : List Event) : Prop := ∀ event ∈ events, event.level < Level.error

theorem quiet_nil : Quiet [] := by
  intro event member
  cases member

theorem quiet_singleton {event : Event} (low : event.level < Level.error) : Quiet [event] := by
  intro other member
  rw [List.mem_singleton.mp member]
  exact low

theorem Quiet.append {events more : List Event} (quiet : Quiet events) (quiet' : Quiet more) :
    Quiet (events ++ more) := by
  intro event member
  exact (List.mem_append.mp member).elim (quiet event) (quiet' event)

theorem quiet_map {α : Type} {items : List α} {event : α → Event}
    (low : ∀ item, (event item).level < Level.error) : Quiet (items.map event) := by
  intro other member
  obtain ⟨item, _, rfl⟩ := List.mem_map.mp member
  exact low item

theorem quiet_flatMap {α : Type} {items : List α} {events : α → List Event}
    (quiet : ∀ item, Quiet (events item)) : Quiet (items.flatMap events) := by
  intro event member
  obtain ⟨item, _, inside⟩ := List.mem_flatMap.mp member
  exact quiet item event inside

end Log

open Log

/-! ## Steps -/

namespace Traced

variable {α β : Type} {x : Traced α} {next : α → Traced β}

theorem quiet_bind (quiet : Quiet x.events) (each : ∀ a, Quiet (next a).events) :
    Quiet (x >>= next).events := by
  obtain ⟨events, result⟩ := x
  cases result with
  | error failure => exact quiet
  | ok a => exact quiet.append (each a)

theorem quiet_report_bind {event : Event} {next : Unit → Traced β} (quiet : Quiet (next ()).events)
    (low : event.level < Level.error) : Quiet (report event >>= next).events :=
  (quiet_singleton low).append quiet

end Traced

/-! ## Looking base scripts up -/

theorem ScriptDirectory.quiet_events (files : FileTree) (root : Path) (id : Identifier) :
    Quiet (ScriptDirectory.events files root id) := by
  apply Quiet.append
  · unfold searchEvents
    split
    · exact quiet_nil
    · split
      · exact quiet_singleton Level.warning_lt_error
      · exact quiet_nil
  · split
    · exact quiet_singleton Level.debug_lt_error
    · exact quiet_nil

mutual

theorem Store.quiet_events (files : FileTree) (id : Identifier) :
    (store : Store) → Quiet (store.events files id)
  | .registry _ => quiet_nil
  | .directory root => ScriptDirectory.quiet_events files root id
  | .chain stores => Store.quiet_eventsFirst files id stores

theorem Store.quiet_eventsFirst (files : FileTree) (id : Identifier) :
    (stores : List Store) → Quiet (Store.eventsFirst files id stores)
  | [] => quiet_nil
  | store :: rest => by
    rw [Store.eventsFirst]
    apply (Store.quiet_events files id store).append
    split
    · exact Store.quiet_eventsFirst files id rest
    · exact quiet_nil

end

theorem Store.quiet_resolveEvents (files : FileTree) (store : Store) (id : Identifier) :
    Quiet (store.resolveEvents files id) := by
  apply (Store.quiet_events files id store).append
  split
  · exact quiet_singleton Level.debug_lt_error
  · exact quiet_nil

theorem Store.quiet_lineageEvents (files : FileTree) (store : Store) (lineage : Lineage) :
    Quiet (store.lineageEvents files lineage) := by
  have follow (reference : Reference) : Quiet
      (.compilingBase reference.identifier :: store.resolveEvents files reference.identifier) := by
    apply Quiet.append (quiet_singleton _) (store.quiet_resolveEvents files _)
    exact Level.debug_lt_error
  apply Quiet.append
  · exact quiet_flatMap fun ancestor => follow ancestor.reference
  · split
    · exact follow _
    · exact quiet_nil

/-! ## Reading scripts -/

namespace Script

theorem quiet_loadFile (files : FileTree) (path : Path) : Quiet (loadFile files path).events := by
  apply Traced.quiet_bind quiet_nil
  intro content
  apply Traced.quiet_bind quiet_nil
  intro script
  exact Traced.quiet_report_bind quiet_nil Level.debug_lt_error

theorem quiet_interpretFile (files : FileTree) (path : Path) :
    Quiet (interpretFile files path).events := by
  apply Traced.quiet_bind quiet_nil
  intro isThere
  split
  · exact quiet_nil
  · apply Traced.quiet_bind quiet_nil
    intro isDirectory
    split
    · exact quiet_nil
    · apply Traced.quiet_report_bind
      · exact quiet_loadFile files path
      · exact Level.info_lt_error

theorem quiet_interpretFiles (files : FileTree) (paths : List Path) :
    Quiet (interpretFiles files paths).events := by
  induction paths with
  | nil => exact quiet_nil
  | cons path rest ih =>
    apply Traced.quiet_bind (quiet_interpretFile files path)
    intro script
    exact Traced.quiet_bind ih fun _ => quiet_nil

theorem quiet_interpretDirectory (files : FileTree) (path : Path) :
    Quiet (interpretDirectory files path).events := by
  apply Traced.quiet_bind quiet_nil
  intro isThere
  split
  · exact quiet_nil
  · apply Traced.quiet_bind quiet_nil
    intro names
    apply Traced.quiet_report_bind
    · exact quiet_interpretFiles files _
    · exact Level.info_lt_error

/-! ## Combining scripts -/

theorem quiet_compileAllOver (files : FileTree) (store : Store) (index : Nat)
    (scripts : List Script) : Quiet (compileAllOver files store index scripts).events := by
  induction scripts generalizing index with
  | nil => exact quiet_nil
  | cons script rest ih =>
    apply Traced.quiet_bind (store.quiet_lineageEvents files _)
    intro compiled
    exact Traced.quiet_bind (ih (index + 1)) fun _ => quiet_nil

theorem quiet_assemble (files : FileTree) (store : Store) (scripts : List Script) :
    Quiet (assemble files store scripts).events := by
  have combined : Quiet (combineOver files store scripts).events := by
    apply Traced.quiet_bind (quiet_compileAllOver files store 0 scripts)
    intro compiled
    apply Traced.quiet_bind
    · exact quiet_map fun _ => Level.debug_lt_error
    · intro result
      exact Traced.quiet_report_bind quiet_nil Level.debug_lt_error
  apply Traced.quiet_bind combined
  intro result
  exact Traced.quiet_report_bind quiet_nil Level.info_lt_error

end Script

/-! ## Producing a table -/

namespace CommandLine

theorem quiet_chooseStore (files : FileTree) (named : Option Path) :
    Quiet (chooseStore files named).events := by
  refine Traced.quiet_report_bind ?_ Level.debug_lt_error
  cases named with
  | none => exact quiet_nil
  | some path =>
    apply Traced.quiet_bind quiet_nil
    intro isDirectory
    split
    · exact quiet_nil
    · exact Traced.quiet_report_bind quiet_nil Level.warning_lt_error

theorem quiet_scriptsAt (files : FileTree) (path : Path) : Quiet (scriptsAt files path).events := by
  apply Traced.quiet_bind quiet_nil
  intro isDirectory
  split
  · exact Script.quiet_interpretDirectory files path
  · exact Traced.quiet_bind (Script.quiet_interpretFile files path) fun _ => quiet_nil

theorem quiet_collect (files : FileTree) (paths : List Path) :
    Quiet (collect files paths).events := by
  induction paths with
  | nil => exact quiet_nil
  | cons path rest ih =>
    apply Traced.quiet_bind (quiet_scriptsAt files path)
    intro scripts
    exact Traced.quiet_bind ih fun _ => quiet_nil

/-- A production says what it does and may warn; its failure is not yet reported. -/
theorem quiet_produce (files : FileTree) (settings : SettingsStore) (arguments : Arguments) :
    Quiet (produce files settings arguments).events := by
  have onward (paths : List Path) : Quiet (do
      let store ← chooseStore files (arguments.extensions <|> settings.extensionsPath profile)
      .report .loaderReady
      let scripts ← collect files paths
      Script.assemble files store scripts : Traced Script).events := by
    apply Traced.quiet_bind (quiet_chooseStore files _)
    intro store
    refine Traced.quiet_report_bind ?_ Level.debug_lt_error
    apply Traced.quiet_bind (quiet_collect files _)
    intro scripts
    exact Script.quiet_assemble files store scripts
  unfold produce
  cases arguments.packMeta with
  | none => exact onward _
  | some path => exact Traced.quiet_bind quiet_nil fun _ => onward _

end CommandLine

end LootScript
