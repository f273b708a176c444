import LootScript.Proofs.Path
import LootScript.Settings.Store

/-!
# Settings are independent cells

Every setting of every profile has a cell of its own, whatever the profiles are called: the last two
parts of a key name the setting, and the profile is what stands before them. So reading a setting
gives what was last written to it in that profile, in the form in which settings are read, and
nothing that happens elsewhere can be seen. Objects through which settings are accessed have no
state but their profile, so a history of the store is a list of assignments with their profiles.
-/
namespace LootScript

/-! ## Keys -/

namespace Setting

def all : List Setting :=
  [.scriptsPath, .extensionsPath, .consoleLevel, .logFilePath, .flag .consoleLogging,
    .flag .consoleColors, .flag .fileLogging]

theorem mem_all (setting : Setting) : setting ∈ all := by
  cases setting with
  | flag which => cases which <;> decide
  | _ => decide

/-- What follows the profile in a key. -/
def tail (setting : Setting) : List Char := '/' :: setting.cell.toList

theorem toList_key (profile : String) (setting : Setting) :
    (setting.key profile).toList = profile.toList ++ setting.tail := by
  rw [key, String.toList_append, String.toList_append, List.append_assoc]
  rfl

/-- No key ends like that of another setting, for the names of both parts would have to agree. -/
theorem eq_of_tail_suffix {setting other : Setting} (ends : setting.tail <:+ other.tail) :
    setting = other := by
  have apart : ∀ setting ∈ all, ∀ other ∈ all, setting.tail <:+ other.tail → setting = other := by
    decide
  exact apart setting (mem_all setting) other (mem_all other) ends

theorem key_injective {profile profile' : String} {setting setting' : Setting}
    (same : setting.key profile = setting'.key profile') :
    profile = profile' ∧ setting = setting' := by
  have chars := congrArg String.toList same
  rw [toList_key, toList_key] at chars
  -- The shorter of the two ends is an end of the longer one.
  have settings : setting = setting' := by
    rcases List.append_eq_append_iff.mp chars with ⟨between, -, split⟩ | ⟨between, -, split⟩
    · exact (eq_of_tail_suffix ⟨between, split.symm⟩).symm
    · exact eq_of_tail_suffix ⟨between, split.symm⟩
  subst settings
  exact ⟨String.toList_inj.mp (List.append_cancel_right chars), rfl⟩

end Setting

/-! ## Reading -/

/-- What reading a setting gives. -/
inductive Reading
  | path (path : Path)
  | optionalPath (path : Option Path)
  | text (text : String)
  | flag (on : Bool)
  deriving DecidableEq

namespace SettingsStore

variable {store : SettingsStore} {profile : String} {setting : Setting}

def read (store : SettingsStore) (profile : String) : Setting → Reading
  | .scriptsPath => .path (store.scriptsPath profile)
  | .extensionsPath => .optionalPath (store.extensionsPath profile)
  | .consoleLevel => .text (store.consoleLevel profile)
  | .logFilePath => .text (store.logFilePath profile)
  | .flag which => .flag (store.flag profile which)

def defaultReading : Setting → Reading
  | .scriptsPath => .path (.ofText ".")
  | .extensionsPath => .optionalPath none
  | .consoleLevel => .text "INFO"
  | .logFilePath => .text defaultLogFile
  | .flag which => .flag (flagDefault which)

/-- A setting is read off its cell and nothing else. -/
theorem read_congr {other : SettingsStore}
    (same : store.find? (setting.key profile) = other.find? (setting.key profile)) :
    store.read profile setting = other.read profile setting := by
  have values : store.value? profile setting = other.value? profile setting := by
    rw [value?, value?, same]
  have texts (default : String) : store.readText profile setting default =
      other.readText profile setting default := by
    rw [readText, readText, values]
  cases setting with
  | scriptsPath => rw [read, read, scriptsPath, scriptsPath, texts]
  | extensionsPath => rw [read, read, extensionsPath, extensionsPath, texts]
  | consoleLevel => rw [read, read, consoleLevel, consoleLevel, texts]
  | logFilePath => rw [read, read, logFilePath, logFilePath, texts]
  | flag which => rw [read, read, flag, flag, values]

theorem readText_of_cell {text : String}
    (found : store.find? (setting.key profile) = some (.str text)) (default : String) :
    store.readText profile setting default = text := by
  rw [readText, value?, found]
  rfl

theorem scriptsPath_of_cell {text : String} (found : store.find? (Setting.scriptsPath.key profile) =
    some (.str (Path.ofText text).text)) : store.scriptsPath profile = .ofText text := by
  rw [scriptsPath, readText_of_cell found, Path.ofText_text (Path.wellFormed_ofText text)]

/-- The text of a path is never empty, so it is told apart from that of no path. -/
theorem extensionsPath_of_cell {text : Option String}
    (found : store.find? (Setting.extensionsPath.key profile) =
      some (.str (((text.map Path.ofText).map Path.text).getD ""))) :
    store.extensionsPath profile = text.map Path.ofText := by
  rw [extensionsPath, readText_of_cell found]
  cases text with
  | none => rfl
  | some text =>
    have formed := Path.wellFormed_ofText text
    have named : (Path.ofText text).text.isEmpty = false :=
      String.isEmpty_eq_false_iff.mpr (Path.text_ne_empty formed)
    simp [named, Path.ofText_text formed]

theorem logFilePath_of_cell {text : String}
    (found : store.find? (Setting.logFilePath.key profile) = some (.str text)) :
    store.logFilePath profile = if text.isEmpty then defaultLogFile else text := by
  rw [logFilePath, readText_of_cell found]

theorem flag_of_cell {which : Flag} {on : Bool}
    (found : store.find? (Setting.key profile (.flag which)) = some (.bool on)) :
    store.flag profile which = on := by
  rw [flag, value?, found]
  rfl

theorem read_empty (profile : String) (setting : Setting) :
    read .empty profile setting = defaultReading setting := by
  cases setting <;> rfl

end SettingsStore

/-! ## Assigning -/

namespace Assignment

variable {assignment : Assignment} {store : SettingsStore} {profile : String}

/-- The value has the type of the setting. -/
inductive Typed : Assignment → Prop
  | scriptsPath (text : String) : Typed (.scriptsPath (some (.ofText text)))
  | extensionsPath (text : Option String) : Typed (.extensionsPath (text.map .ofText))
  | consoleLevel (level : String) : Typed (.consoleLevel level)
  | logFilePath (text : String) : Typed (.logFilePath (.str text))
  | flag (which : Flag) (on : Bool) : Typed (.flag which (.bool on))

/-- What a setting is read as after an assignment to it, unless the assignment is refused. -/
def reading? : Assignment → Option Reading
  | .scriptsPath path => path.map .path
  | .extensionsPath path => some (.optionalPath path)
  | .consoleLevel level =>
    let level := SettingsStore.capitals level
    if level ∈ SettingsStore.levels then some (.text level) else none
  | .logFilePath (.str text) =>
    some (.text (if text.isEmpty then SettingsStore.defaultLogFile else text))
  | .flag _ (.bool on) => some (.flag on)
  | .logFilePath _ | .flag _ _ => none

theorem apply_of_refused (refused : assignment.stored? = none) (profile : String)
    (store : SettingsStore) : assignment.apply profile store = store := by
  rw [apply, refused]

/-- An assignment leaves the cells of other settings and of other profiles as they are. -/
theorem read_apply_of_apart {profile' : String} {setting : Setting}
    (apart : ¬(profile' = profile ∧ setting = assignment.setting)) :
    (assignment.apply profile store).read profile' setting = store.read profile' setting := by
  apply SettingsStore.read_congr
  cases stored : assignment.stored? with
  | none => rw [apply_of_refused stored]
  | some value =>
    have other : setting.key profile' ≠ assignment.setting.key profile :=
      fun same => apart (Setting.key_injective same)
    rw [apply, stored, OrderedMap.find?_insert, if_neg other]

/-- Reading gives back what was assigned, in the form that it is read in. -/
theorem read_apply (typed : assignment.Typed) (profile : String) (store : SettingsStore) :
    (assignment.apply profile store).read profile assignment.setting =
      assignment.reading?.getD (store.read profile assignment.setting) := by
  have found (value : Json) : (store.insert (assignment.setting.key profile) value).find?
      (assignment.setting.key profile) = some value := by
    rw [OrderedMap.find?_insert, if_pos rfl]
  cases typed with
  | scriptsPath text => exact congrArg Reading.path (SettingsStore.scriptsPath_of_cell (found _))
  | extensionsPath text =>
    exact congrArg Reading.optionalPath (SettingsStore.extensionsPath_of_cell (found _))
  | consoleLevel level =>
    by_cases known : SettingsStore.capitals level ∈ SettingsStore.levels
    · have kept : (consoleLevel level).stored? = some (.str (SettingsStore.capitals level)) :=
        if_pos known
      rw [apply, kept, reading?, if_pos known]
      exact congrArg Reading.text (SettingsStore.readText_of_cell (found _) _)
    · have refused : (consoleLevel level).stored? = none := if_neg known
      rw [apply_of_refused refused, reading?, if_neg known]
      rfl
  | logFilePath text => exact congrArg Reading.text (SettingsStore.logFilePath_of_cell (found _))
  | flag which on => exact congrArg Reading.flag (SettingsStore.flag_of_cell (found _))

end Assignment

/-! ## Histories -/

/-- An assignment made in the settings of a profile. -/
structure Change where
  profile : String
  assignment : Assignment

namespace Change

variable {run : List Change}

def apply (store : SettingsStore) (change : Change) : SettingsStore :=
  change.assignment.apply change.profile store

/-- The store after a run that began with an empty one. -/
def outcome (run : List Change) : SettingsStore := run.foldl apply .empty

/-- What a change makes of the setting of the profile, when it is about it and is not refused. -/
def reading? (profile : String) (setting : Setting) (change : Change) : Option Reading :=
  if profile = change.profile ∧ setting = change.assignment.setting then
    change.assignment.reading?
  else none

/-- What was last written to the setting of the profile. -/
def lastReading? (profile : String) (setting : Setting) (run : List Change) : Option Reading :=
  (run.filterMap (reading? profile setting)).getLast?

theorem outcome_concat (run : List Change) (change : Change) :
    outcome (run ++ [change]) = change.apply (outcome run) := by
  rw [outcome, List.foldl_append]
  rfl

theorem lastReading?_concat (profile : String) (setting : Setting) (run : List Change)
    (change : Change) : lastReading? profile setting (run ++ [change]) =
      (change.reading? profile setting).or (lastReading? profile setting run) := by
  rw [lastReading?, List.filterMap_append, List.getLast?_append]
  cases seen : change.reading? profile setting <;> simp [seen, lastReading?]

/-- One change more shows where it was made, and nowhere else. -/
theorem read_apply {change : Change} (typed : change.assignment.Typed) (store : SettingsStore)
    (profile : String) (setting : Setting) :
    (change.apply store).read profile setting =
      (change.reading? profile setting).getD (store.read profile setting) := by
  unfold reading?
  split
  · next here =>
    obtain ⟨rfl, rfl⟩ := here
    exact Assignment.read_apply typed change.profile store
  · next apart => exact Assignment.read_apply_of_apart apart

theorem read_outcome (typed : ∀ change ∈ run, change.assignment.Typed) (profile : String)
    (setting : Setting) : (outcome run).read profile setting =
      (lastReading? profile setting run).getD (SettingsStore.defaultReading setting) := by
  -- From the last change backwards: it shows, or what was there before it does.
  induction run using List.reverseRecOn with
  | nil => exact SettingsStore.read_empty profile setting
  | append_singleton earlier change ih =>
    rw [List.forall_mem_append, List.forall_mem_singleton] at typed
    rw [outcome_concat, read_apply typed.2, lastReading?_concat, ih typed.1]
    cases change.reading? profile setting <;> rfl

/-- A level is accepted when it is one, so there is nothing else to be read. -/
theorem mem_levels_of_reading? {change : Change} {profile level : String}
    (seen : change.reading? profile .consoleLevel = some (.text level)) :
    level ∈ SettingsStore.levels := by
  obtain ⟨profile', assignment⟩ := change
  unfold reading? at seen
  split at seen
  · next here =>
    cases assignment with
    | consoleLevel given =>
      simp only [Assignment.reading?] at seen
      split at seen
      · next known =>
        cases seen
        exact known
      · cases seen
    | _ => cases here.2
  · cases seen

theorem consoleLevel_outcome (typed : ∀ change ∈ run, change.assignment.Typed) (profile : String) :
    (outcome run).consoleLevel profile ∈ SettingsStore.levels := by
  have level := read_outcome typed profile .consoleLevel
  cases last : lastReading? profile .consoleLevel run with
  | none =>
    rw [last] at level
    have initial : (outcome run).consoleLevel profile = "INFO" := Reading.text.inj level
    rw [initial]
    decide
  | some reading =>
    rw [last] at level
    change Reading.text _ = reading at level
    subst level
    -- Some change has shown it, and was not refused.
    obtain ⟨change, -, seen⟩ := List.mem_filterMap.mp (List.mem_of_getLast? last)
    exact mem_levels_of_reading? seen

/-- After every run of well-typed assignments a setting is read as it was last written in its
profile, or else as its default, and the level of the console is a level; a further assignment
shows in no other setting and in no other profile, and a level that is none changes nothing. -/
theorem settings_independent (run : List Change)
    (typed : ∀ change ∈ run, change.assignment.Typed) :
    (∀ profile setting, (outcome run).read profile setting =
      (lastReading? profile setting run).getD (SettingsStore.defaultReading setting)) ∧
    (∀ profile, (outcome run).consoleLevel profile ∈ SettingsStore.levels) ∧
    (∀ (change : Change) (profile : String) (setting : Setting),
      ¬(profile = change.profile ∧ setting = change.assignment.setting) →
        (change.apply (outcome run)).read profile setting =
          (outcome run).read profile setting) ∧
    ∀ profile level, SettingsStore.capitals level ∉ SettingsStore.levels →
      (Change.mk profile (.consoleLevel level)).apply (outcome run) = outcome run := by
  refine ⟨read_outcome typed, consoleLevel_outcome typed, ?_, ?_⟩
  · intro change profile setting apart
    exact Assignment.read_apply_of_apart apart
  · intro profile level unknown
    have refused : (Assignment.consoleLevel level).stored? = none := if_neg unknown
    exact Assignment.apply_of_refused refused profile (outcome run)

/-- The profiles are called so that a key could be taken for one of another profile. -/
theorem settings_independent_slashes :
    let run : List Change := [⟨"a", .consoleLevel "debug"⟩, ⟨"a/logging", .consoleLevel "error"⟩,
      ⟨"a", .consoleLevel "loud"⟩, ⟨"a", .extensionsPath (some (.ofText "x//./y/"))⟩,
      ⟨"a/paths", .extensionsPath none⟩, ⟨"", .logFilePath (.str "")⟩,
      ⟨"a", .flag .fileLogging (.bool true)⟩, ⟨"a", .scriptsPath (some (.ofText "s"))⟩]
    (∀ change ∈ run, change.assignment.Typed) ∧
    (outcome run).read "a" .consoleLevel = .text "DEBUG" ∧
    (outcome run).read "a/logging" .consoleLevel = .text "ERROR" ∧
    (outcome run).read "a" .extensionsPath = .optionalPath (some ⟨.relative, ["x", "y"]⟩) ∧
    (outcome run).read "a/paths" .extensionsPath = .optionalPath none ∧
    (outcome run).read "" .logFilePath = .text "logs/megu.csv" ∧
    (outcome run).read "a" (.flag .fileLogging) = .flag true ∧
    (outcome run).read "b" (.flag .fileLogging) = .flag false := by
  intro run
  have typed : ∀ change ∈ run, change.assignment.Typed := by
    simp only [run, List.forall_mem_cons, List.not_mem_nil, false_imp_iff, implies_true, and_true]
    exact ⟨.consoleLevel _, .consoleLevel _, .consoleLevel _, .extensionsPath (some _),
      .extensionsPath none, .logFilePath _, .flag _ _, .scriptsPath _⟩
  have reads := (settings_independent run typed).1
  refine ⟨typed, ?_, ?_, ?_, ?_, ?_, ?_, ?_⟩
  all_goals
    rw [reads]
    decide

end Change

end LootScript
