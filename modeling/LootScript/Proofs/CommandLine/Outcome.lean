import LootScript.Proofs.CommandLine.Reported
import LootScript.Proofs.Log.Quiet
import LootScript.Proofs.Settings.Check
import Mathlib.Data.List.Basic

/-!
# The outcome of a run

A run prints a table exactly if the settings are in order and a table is produced, and then it
prints nothing but the table. In every other case it prints nothing, and the one error that it
reports is the first thing that is wrong. Two things end it without a report: a settings option that
was taken back, and a path that the system refuses to look at.
-/
namespace LootScript

namespace CommandLine

variable {files : FileTree} {settings : SettingsStore} {arguments : Arguments} {argv : List String}
  {now : Int} {failure : Failure} {report : SettingsReport} {result : Script} {text : String}

/-! ## What can be wrong -/

/-- Settings are kept in a place that is no directory. -/
def SettingsUsable (files : FileTree) (arguments : Arguments) : Prop :=
  arguments.settings ≠ .nowhere ∧
    ∀ path, arguments.settings = .file path → files.isDirectory (.ofText path.text) = .ok false

/-- The settings can be checked, and where they say what is read, it is a directory. -/
structure Ready (files : FileTree) (settings : SettingsStore) (arguments : Arguments) : Prop where
  usable : SettingsUsable files arguments
  checked : ∃ report, settings.check files profile = .ok report
  scripts : arguments.paths = [] → files.isDirectory (settings.scriptsPath profile) = .ok true

/-- Everything is in order, from the settings to the table. -/
def Yields (files : FileTree) (settings : SettingsStore) (arguments : Arguments)
    (result : Script) : Prop :=
  Ready files settings arguments ∧ Produces files settings arguments result

inductive Fault
  | settingsFile (text : String)
  | scriptsPath (text : String)
  | failed (failure : Failure)

/-- Some failures end a run abruptly. -/
def Fault.isReported : Fault → Bool
  | .settingsFile _ | .scriptsPath _ => true
  | .failed failure => CommandLine.isReported failure

/-- The first thing that is wrong, in the order in which a run comes to it. -/
inductive FirstFault (files : FileTree) (settings : SettingsStore) (arguments : Arguments) :
    Fault → Prop
  | nowhere : arguments.settings = .nowhere →
    FirstFault files settings arguments (.failed .noSettingsPlace)
  | refusedFile {path : Path} {failure : Failure} : arguments.settings = .file path →
    files.isDirectory (.ofText path.text) = .error failure →
      FirstFault files settings arguments (.failed failure)
  | settingsFile {path : Path} : arguments.settings = .file path →
    files.isDirectory (.ofText path.text) = .ok true →
      FirstFault files settings arguments
        (.settingsFile ("Settings file is a directory: " ++ path.text))
  | unchecked {failure : Failure} : SettingsUsable files arguments →
    settings.check files profile = .error failure →
      FirstFault files settings arguments (.failed failure)
  | missing {report : SettingsReport} : SettingsUsable files arguments →
    settings.check files profile = .ok report → arguments.paths = [] →
    files.exists? (settings.scriptsPath profile) = .ok false →
      FirstFault files settings arguments
        (.scriptsPath ("Scripts path does not exist: " ++ (settings.scriptsPath profile).text))
  | notDirectory {report : SettingsReport} : SettingsUsable files arguments →
    settings.check files profile = .ok report → arguments.paths = [] →
    files.exists? (settings.scriptsPath profile) = .ok true →
    files.isDirectory (settings.scriptsPath profile) = .ok false →
      FirstFault files settings arguments
        (.scriptsPath ("Scripts path is not a directory: " ++ (settings.scriptsPath profile).text))
  | production {failure : Failure} : Ready files settings arguments →
    Stumbles files settings arguments failure →
      FirstFault files settings arguments (.failed failure)

/-- The diagnostic output ends with an error, the only one there is, as far as it is to be shown. -/
def EndsWith (files : FileTree) (settings : SettingsStore) (arguments : Arguments) (now : Int)
    (diagnostics : List Diagnostic) (error : Event) : Prop :=
  ∃ logging ready before, setUpLogging files settings arguments = .ok (logging, files, ready) ∧
    Log.Quiet before ∧ diagnostics = (before ++ [error]).filterMap (logging.diagnostic? now)

/-- What the diagnostic output says about a fault. -/
def Shows (files : FileTree) (settings : SettingsStore) (arguments : Arguments) (now : Int)
    (diagnostics : List Diagnostic) : Fault → Prop
  | .settingsFile text => diagnostics = [.plain ("Configuration error: " ++ text)]
  | .scriptsPath text => EndsWith files settings arguments now diagnostics (.settingsError text)
  | .failed failure => EndsWith files settings arguments now diagnostics (.runFailed failure)

/-! ## Settings -/

theorem checkSettings_of_usable (usable : SettingsUsable files arguments) :
    checkSettings files arguments.settings = .ok () := by
  cases place : arguments.settings with
  | standard => rfl
  | nowhere => exact absurd place usable.1
  | file path => rw [checkSettings, SettingsStore.checkFile, usable.2 path place]; rfl

theorem Ready.errors_eq_nil (ready : Ready files settings arguments)
    (checked : settings.check files profile = .ok report) (unnamed : arguments.paths = []) :
    report.errors = [] := by
  have directory := ready.scripts unnamed
  -- An error says that there is no directory, but there is one.
  rcases SettingsStore.errors_of_check checked with ⟨_, none⟩ | ⟨absent, _⟩ | ⟨_, file, _⟩
  · exact none
  · rw [FileTree.exists?_of_isDirectory directory] at absent
    cases absent
  · rw [directory] at file
    cases file

/-! ## Logging -/

theorem exists_threshold {name : String}
    (level : SettingsStore.capitals name ∈ SettingsStore.levels) :
    ∃ least, threshold name = .ok least := by
  -- A level is not mistaken for one of the names that stand for formats.
  have apart : ∀ name ∈ SettingsStore.levels, name ∉ formatNames := by decide
  have known := apart _ level
  exact ⟨_, if_neg known⟩

/-- With a level for the console and no log file, logging can be set up and changes no file. -/
theorem exists_setUpLogging
    (level : SettingsStore.capitals (levelName settings arguments) ∈ SettingsStore.levels)
    (unlogged : settings.flag profile .fileLogging = false) :
    ∃ logging ready, setUpLogging files settings arguments = .ok (logging, files, ready) ∧
      logging.file = none ∧ Log.Quiet ready := by
  obtain ⟨least, threshold⟩ := exists_threshold level
  have initialized : Log.Quiet [.loggingReady] := Log.quiet_singleton Log.Level.debug_lt_error
  cases shown : settings.flag profile .consoleLogging with
  | false =>
    refine ⟨⟨none, none⟩, [.loggingReady], ?_, rfl, initialized⟩
    simp only [setUpLogging, shown, unlogged]
    rfl
  | true =>
    let colors := settings.flag profile .consoleColors
    have announced : Log.Quiet [.consoleReady (levelName settings arguments) colors] :=
      Log.quiet_singleton Log.Level.debug_lt_error
    refine ⟨⟨some (least, colors), none⟩, _, ?_, rfl, initialized.append announced⟩
    simp only [setUpLogging, shown, unlogged, threshold]
    rfl

/-! ## Working -/

/-- What is left of the work once the settings have been checked. -/
def conclude (files : FileTree) (settings : SettingsStore) (arguments : Arguments)
    (report : SettingsReport) : Traced (Option Script) :=
  if arguments.paths.isEmpty ∧ !report.isValid then do
    .reportAll (report.errors.map .settingsError)
    return none
  else do
    let produced := produce files settings arguments
    .reportAll produced.events
    match produced.result with
    | .ok script => return some script
    | .error failure =>
      if isReported failure then do
        .report (.runFailed failure)
        return none
      else .fail failure

theorem work_of_check (checked : settings.check files profile = .ok report) :
    (work files settings arguments).result = (conclude files settings arguments report).result ∧
    ∃ before, Log.Quiet before ∧ (work files settings arguments).events =
      before ++ (conclude files settings arguments report).events := by
  have onward : work files settings arguments = (do
      .report .settingsLoaded
      let report ← .ofExcept (settings.check files profile)
      .reportAll report.events
      .reportAll (report.warnings.map .settingsWarning)
      conclude files settings arguments report) := rfl
  have loaded : Log.Quiet [.settingsLoaded] := Log.quiet_singleton Log.Level.debug_lt_error
  have warned : Log.Quiet (report.warnings.map .settingsWarning) :=
    Log.quiet_map fun _ => Log.Level.warning_lt_error
  rw [onward, checked]
  refine ⟨rfl, _, loaded.append (report.quiet_events.append warned), ?_⟩
  rw [List.append_assoc, List.append_assoc]
  rfl

theorem conclude_of_invalid (unnamed : arguments.paths = []) (errors : report.errors = [text]) :
    (conclude files settings arguments report).result = .ok none ∧
      (conclude files settings arguments report).events = [.settingsError text] := by
  have invalid : arguments.paths.isEmpty ∧ !report.isValid := by
    simp [unnamed, SettingsReport.isValid, errors]
  rw [conclude, if_pos invalid, errors]
  exact ⟨rfl, rfl⟩

section Ready

variable (valid : arguments.paths = [] → report.errors = [])

include valid

theorem conclude_of_valid :
    conclude files settings arguments report = (do
      .reportAll (produce files settings arguments).events
      match (produce files settings arguments).result with
      | .ok script => return some script
      | .error failure =>
        if isReported failure then do
          .report (.runFailed failure)
          return none
        else .fail failure) := by
  have passed : ¬(arguments.paths.isEmpty ∧ !report.isValid) := by
    rintro ⟨unnamed, invalid⟩
    have nothing := valid (List.isEmpty_iff.mp unnamed)
    simp [SettingsReport.isValid, nothing] at invalid
  rw [conclude, if_neg passed]

theorem conclude_of_produces (produces : Produces files settings arguments result) :
    (conclude files settings arguments report).result = .ok (some result) := by
  rw [conclude_of_valid valid, produces_iff.mpr produces]
  rfl

theorem conclude_of_reported (stumbles : Stumbles files settings arguments failure)
    (reported : isReported failure = true) :
    (conclude files settings arguments report).result = .ok none ∧
      ∃ before, Log.Quiet before ∧ (conclude files settings arguments report).events =
        before ++ [.runFailed failure] := by
  rw [conclude_of_valid valid, stumbles_iff.mpr stumbles]
  simp only [if_pos reported]
  exact ⟨rfl, _, quiet_produce files settings arguments, rfl⟩

theorem conclude_of_unreported (stumbles : Stumbles files settings arguments failure)
    (unreported : isReported failure = false) :
    (conclude files settings arguments report).result = .error failure := by
  rw [conclude_of_valid valid, stumbles_iff.mpr stumbles]
  simp only [unreported]
  rfl

end Ready

/-! ## Running -/

/-- What a run gives for the table that its work has led to, or for none. -/
def deliver (files : FileTree) (diagnostics : List Diagnostic) :
    Option Script → Except Failure Outcome
  | none => .ok ⟨1, "", diagnostics, files⟩
  | some script => match script.toJson.indented? with
    | some text => .ok ⟨0, text ++ "\n", diagnostics, files⟩
    | none => .error .tooDeep

/-- Once logging is set up, the work decides the outcome, if all that it reports can be kept. -/
theorem runWith_of_kept {logging : Logging} {made logged later : FileTree} {ready : List Event}
    (usable : checkSettings files arguments.settings = .ok ())
    (setUp : setUpLogging files settings arguments = .ok (logging, made, ready))
    (kept : logging.keep made now ready = .ok logged)
    (kept' : logging.keep logged now (work logged settings arguments).events = .ok later) :
    runWith files settings arguments now =
      (work logged settings arguments).result >>= deliver later
        ((ready ++ (work logged settings arguments).events).filterMap
          (logging.diagnostic? now)) := by
  rw [runWith, usable, setUp]
  simp only [bind, Except.bind, kept, kept']
  cases (work logged settings arguments).result with
  | error failure => rfl
  | ok produced => cases produced <;> rfl

section Run

variable (level : SettingsStore.capitals (levelName settings arguments) ∈ SettingsStore.levels)
  (unlogged : settings.flag profile .fileLogging = false)

include level unlogged

/-- Without a log file, there is nothing to be kept. -/
theorem runWith_of_usable (usable : SettingsUsable files arguments) (now : Int) :
    ∃ logging ready, setUpLogging files settings arguments = .ok (logging, files, ready) ∧
      Log.Quiet ready ∧
      runWith files settings arguments now =
        (work files settings arguments).result >>= deliver files
          ((ready ++ (work files settings arguments).events).filterMap
            (logging.diagnostic? now)) := by
  obtain ⟨logging, ready, setUp, fileless, quiet⟩ := exists_setUpLogging level unlogged
  have kept (events : List Event) : logging.keep files now events = .ok files := by
    rw [Logging.keep, fileless]
  refine ⟨logging, ready, setUp, quiet, ?_⟩
  exact runWith_of_kept (checkSettings_of_usable usable) setUp (kept _) (kept _)

theorem runWith_of_yields (yields : Yields files settings arguments result)
    (shallow : result.toJson.nestsWithin Json.nestingLimit = true) (now : Int) :
    ∃ diagnostics, runWith files settings arguments now =
      .ok ⟨0, result.toJson.indented ++ "\n", diagnostics, files⟩ := by
  obtain ⟨ready, produces⟩ := yields
  obtain ⟨report, checked⟩ := ready.checked
  have valid := ready.errors_eq_nil checked
  obtain ⟨logging, prepared, _, _, ran⟩ := runWith_of_usable level unlogged ready.usable now
  have concluded := (work_of_check checked).1.trans (conclude_of_produces valid produces)
  have printed : result.toJson.indented? = some result.toJson.indented := if_pos shallow
  have delivered (diagnostics : List Diagnostic) : deliver files diagnostics (some result) =
      .ok ⟨0, result.toJson.indented ++ "\n", diagnostics, files⟩ := by
    rw [deliver, printed]
  rw [ran, concluded]
  exact ⟨_, delivered _⟩

/-- A run that concludes with an error ends with code 1, prints nothing and shows the error. -/
theorem runWith_of_concluded {error : Event} (usable : SettingsUsable files arguments)
    (checked : settings.check files profile = .ok report)
    (nothing : (conclude files settings arguments report).result = .ok none)
    (ended : ∃ before, Log.Quiet before ∧
      (conclude files settings arguments report).events = before ++ [error]) (now : Int) :
    ∃ diagnostics, runWith files settings arguments now = .ok ⟨1, "", diagnostics, files⟩ ∧
      EndsWith files settings arguments now diagnostics error := by
  obtain ⟨logging, prepared, setUp, quiet, ran⟩ := runWith_of_usable level unlogged usable now
  obtain ⟨same, earlier, quiet', events⟩ : (work files settings arguments).result = _ ∧ _ :=
    work_of_check checked
  obtain ⟨later, quiet'', events'⟩ := ended
  rw [ran, same, nothing]
  refine ⟨_, rfl, logging, prepared, _, setUp, (quiet.append quiet').append quiet'', ?_⟩
  rw [events, events', List.append_assoc, List.append_assoc]

theorem runWith_of_reported {fault : Fault} (first : FirstFault files settings arguments fault)
    (reported : fault.isReported = true) (now : Int) :
    ∃ diagnostics, runWith files settings arguments now = .ok ⟨1, "", diagnostics, files⟩ ∧
      Shows files settings arguments now diagnostics fault := by
  cases first with
  | nowhere => cases reported
  | refusedFile _ refused =>
    -- A bare refusal is not reported.
    cases FileTree.eq_system_of_isDirectory refused
    cases reported
  | settingsFile place directory =>
    -- This is told before there is any logging.
    refine ⟨_, ?_, rfl⟩
    rw [runWith, place, checkSettings, SettingsStore.checkFile, directory]
    rfl
  | unchecked _ failed =>
    cases SettingsStore.eq_system_of_check failed
    cases reported
  | missing usable checked unnamed absent =>
    obtain ⟨nothing, events⟩ :=
      conclude_of_invalid unnamed (SettingsStore.errors_of_missing checked absent)
    exact runWith_of_concluded level unlogged usable checked nothing
      ⟨[], Log.quiet_nil, events⟩ now
  | notDirectory usable checked unnamed isThere file =>
    obtain ⟨nothing, events⟩ :=
      conclude_of_invalid unnamed (SettingsStore.errors_of_notDirectory checked isThere file)
    exact runWith_of_concluded level unlogged usable checked nothing
      ⟨[], Log.quiet_nil, events⟩ now
  | production ready stumbles =>
    obtain ⟨report, checked⟩ := ready.checked
    obtain ⟨nothing, ended⟩ :=
      conclude_of_reported (ready.errors_eq_nil checked) stumbles reported
    exact runWith_of_concluded level unlogged ready.usable checked nothing ended now

theorem runWith_of_unreported (first : FirstFault files settings arguments (.failed failure))
    (unreported : isReported failure = false) (now : Int) :
    runWith files settings arguments now = .error failure := by
  cases first with
  | nowhere place =>
    rw [runWith, place]
    rfl
  | refusedFile place refused =>
    cases FileTree.eq_system_of_isDirectory refused
    rw [runWith, place, checkSettings, SettingsStore.checkFile, refused]
    rfl
  | unchecked usable failed =>
    obtain ⟨logging, prepared, _, _, ran⟩ := runWith_of_usable level unlogged usable now
    have stopped : (work files settings arguments).result = .error failure := by
      simp only [work, Traced.result_bind, Traced.result_report, Traced.result_ofExcept, failed]
      rfl
    rw [ran, stopped]
    rfl
  | production ready stumbles =>
    obtain ⟨report, checked⟩ := ready.checked
    obtain ⟨logging, prepared, _, _, ran⟩ := runWith_of_usable level unlogged ready.usable now
    have stopped := (work_of_check checked).1.trans
      (conclude_of_unreported (ready.errors_eq_nil checked) stumbles unreported)
    rw [ran, stopped]
    rfl

end Run

/-! ## Every run has an outcome -/

theorem isReported_of_firstFault (start : files.StartsNameable)
    (first : FirstFault files settings arguments (.failed failure)) :
    isReported failure = true ∨ failure = .system ∨ failure = .noSettingsPlace := by
  cases first with
  | nowhere => exact .inr (.inr rfl)
  | refusedFile _ refused => exact .inr (.inl (FileTree.eq_system_of_isDirectory refused))
  | unchecked _ failed => exact .inr (.inl (SettingsStore.eq_system_of_check failed))
  | production _ stumbles => exact (isReported_of_stumbles start stumbles).imp_right .inl

theorem yields_or_firstFault (files : FileTree) (settings : SettingsStore)
    (arguments : Arguments) :
    (∃ result, Yields files settings arguments result) ∨
      ∃ fault, FirstFault files settings arguments fault := by
  -- Stage by stage: the first one that is not passed gives the fault.
  by_cases usable : SettingsUsable files arguments
  · cases checked : settings.check files profile with
    | error failure => exact .inr ⟨_, .unchecked usable checked⟩
    | ok report =>
      by_cases scripts : arguments.paths = [] →
          files.isDirectory (settings.scriptsPath profile) = .ok true
      · have ready : Ready files settings arguments := ⟨usable, ⟨report, checked⟩, scripts⟩
        cases produced : (produce files settings arguments).result with
        | ok result => exact .inl ⟨result, ready, produces_iff.mp produced⟩
        | error failure => exact .inr ⟨_, .production ready (stumbles_iff.mp produced)⟩
      · obtain ⟨unnamed, other⟩ := Classical.not_imp.mp scripts
        rcases SettingsStore.errors_of_check checked with
          ⟨directory, _⟩ | ⟨absent, _⟩ | ⟨isThere, file, _⟩
        · exact absurd directory other
        · exact .inr ⟨_, .missing usable checked unnamed absent⟩
        · exact .inr ⟨_, .notDirectory usable checked unnamed isThere file⟩
  · right
    cases place : arguments.settings with
    | standard =>
      exfalso
      apply usable
      rw [SettingsUsable, place]
      simp
    | nowhere => exact ⟨_, .nowhere place⟩
    | file path =>
      cases looked : files.isDirectory (.ofText path.text) with
      | error failure => exact ⟨_, .refusedFile place looked⟩
      | ok isDirectory =>
        cases isDirectory with
        | true => exact ⟨_, .settingsFile place looked⟩
        | false =>
          exfalso
          apply usable
          rw [SettingsUsable, place]
          simp [looked]

section Outcome

variable (start : files.StartsNameable)
  (level : SettingsStore.capitals (levelName settings arguments) ∈ SettingsStore.levels)
  (unlogged : settings.flag profile .fileLogging = false)
  (shallow : ∀ result, Yields files settings arguments result →
    result.toJson.nestsWithin Json.nestingLimit = true)

include start level unlogged shallow

/-- A run prints its table, or it shows what is wrong, or it is cut short. -/
theorem runWith_cases (now : Int) :
    (∃ result diagnostics, Yields files settings arguments result ∧
      runWith files settings arguments now =
        .ok ⟨0, result.toJson.indented ++ "\n", diagnostics, files⟩) ∨
    (∃ fault diagnostics, FirstFault files settings arguments fault ∧
      Shows files settings arguments now diagnostics fault ∧
      runWith files settings arguments now = .ok ⟨1, "", diagnostics, files⟩) ∨
    (∃ failure, FirstFault files settings arguments (.failed failure) ∧
      (failure = .system ∨ failure = .noSettingsPlace) ∧
      runWith files settings arguments now = .error failure) := by
  rcases yields_or_firstFault files settings arguments with ⟨result, yields⟩ | ⟨fault, first⟩
  · obtain ⟨diagnostics, ran⟩ :=
      runWith_of_yields level unlogged yields (shallow result yields) now
    exact .inl ⟨result, diagnostics, yields, ran⟩
  · right
    cases reported : fault.isReported with
    | true =>
      obtain ⟨diagnostics, ran, shows⟩ := runWith_of_reported level unlogged first reported now
      exact .inl ⟨fault, diagnostics, first, shows, ran⟩
    | false =>
      cases fault with
      | settingsFile text => cases reported
      | scriptsPath text => cases reported
      | failed failure =>
        have ran := runWith_of_unreported level unlogged first reported now
        rcases isReported_of_firstFault start first with known | abrupt
        · rw [Fault.isReported, known] at reported
          cases reported
        · exact .inr ⟨failure, first, abrupt, ran⟩

/--
Of a run with a level for the console and without a log file. It prints a table exactly if
everything is in order, and then it prints nothing else. If it ends with another code than 0, the
code is 1, nothing is printed, and the error that is shown is the first thing that is wrong. It is
cut short exactly if the first thing that is wrong is a refusal by the system, or a settings option
that was taken back.
-/
theorem run_outcome (accepted : Arguments.parse argv = .run arguments) (now : Int) :
    (∀ text, (∃ outcome, run files settings argv now = .ok outcome ∧ outcome.code = 0 ∧
        outcome.output = text) ↔
      ∃ result, Yields files settings arguments result ∧
        text = result.toJson.indented ++ "\n") ∧
    (∀ outcome, run files settings argv now = .ok outcome → outcome.code ≠ 0 →
      outcome.code = 1 ∧ outcome.output = "" ∧ ∃ fault, FirstFault files settings arguments fault ∧
        Shows files settings arguments now outcome.diagnostics fault) ∧
    (∀ failure, run files settings argv now = .error failure ↔
      (failure = .system ∨ failure = .noSettingsPlace) ∧
        FirstFault files settings arguments (.failed failure)) := by
  have asked : run files settings argv now = runWith files settings arguments now := by
    rw [run, accepted]
  -- Each part of the conclusion singles out one of three kinds of runs.
  have kinds := runWith_cases start level unlogged shallow now
  rw [asked]
  refine ⟨?_, ?_, ?_⟩
  · intro text
    constructor
    · rintro ⟨outcome, ended, code, rfl⟩
      rcases kinds with ⟨result, diagnostics, yields, ran⟩ | ⟨_, diagnostics, _, _, ran⟩ |
        ⟨failure, _, _, ran⟩
      · rw [ran] at ended
        cases ended
        exact ⟨result, yields, rfl⟩
      · rw [ran] at ended
        cases ended
        cases code
      · rw [ran] at ended
        cases ended
    · rintro ⟨result, yields, rfl⟩
      obtain ⟨diagnostics, ran⟩ :=
        runWith_of_yields level unlogged yields (shallow result yields) now
      exact ⟨_, ran, rfl, rfl⟩
  · intro outcome ended other
    rcases kinds with ⟨result, diagnostics, _, ran⟩ | ⟨fault, diagnostics, first, shows, ran⟩ |
      ⟨failure, _, _, ran⟩
    · rw [ran] at ended
      cases ended
      exact absurd rfl other
    · rw [ran] at ended
      cases ended
      exact ⟨rfl, rfl, fault, first, shows⟩
    · rw [ran] at ended
      cases ended
  · intro failure
    constructor
    · intro ended
      rcases kinds with ⟨_, _, _, ran⟩ | ⟨_, _, _, _, ran⟩ | ⟨failure', first, abrupt, ran⟩
      · rw [ran] at ended
        cases ended
      · rw [ran] at ended
        cases ended
      · rw [ran] at ended
        cases ended
        exact ⟨abrupt, first⟩
    · rintro ⟨abrupt, first⟩
      have unreported : isReported failure = false := by
        rcases abrupt with rfl | rfl <;> rfl
      exact runWith_of_unreported level unlogged first unreported now

end Outcome

/-! ## Two runs -/

/-- A base script, a script that extends it, and a directory with one more script. -/
def quarry : FileTree where
  root := [
    ("lib", .directory [("minecraft", .directory [("base.megu",
      .file "\x7b\"pools\": \x7b\"sand\": \x7b\"type\": \"empty\"\x7d\x7d\x7d".toUTF8)])]),
    ("a.megu", .file ("\x7b\"type\": \"block\", \"extend\": \"base\", " ++
      "\"pools\": \x7b\"clay\": \x7b\"type\": \"empty\"\x7d\x7d\x7d").toUTF8),
    ("more", .directory [
      ("notes.txt", .file .empty),
      ("b.megu", .file ("\x7b\"pools\": \x7b\"dirt\": \x7b\"type\": \"empty\"\x7d\x7d, " ++
        "\"remove\": [\"sand\"]\x7d").toUTF8)])]
  workingDirectory := .present []

/-- All of it is to be combined. -/
def quarryArguments : Arguments :=
  { Arguments.none with
    paths := [.ofText "a.megu", .ofText "more"]
    extensions := some (.ofText "lib")
    logLevel := some "error" }

def quarryTable : Script :=
  { Script.sketch ["clay", "dirt"] ["sand"] with kind := some "block" }

theorem produces_quarry : Produces quarry .empty quarryArguments quarryTable := by
  let store : Store := .chain [.directory (.ofText "lib"), .registry Builtin.registry]
  let base := Script.sketch ["sand"] []
  let toBase : Reference := ⟨"base", ⟨"minecraft", "base"⟩, rfl⟩
  let one : Script := { Script.sketch ["clay"] [] with kind := some "block", base := some toBase }
  let other := Script.sketch ["dirt"] ["sand"]
  -- The walk is given step by step, since the measure that ends it cannot be evaluated.
  have found : (store.source quarry).resolveText (.str "base") = .ok base := by decide +kernel
  have climbs : (store.source quarry).Climbs one [⟨toBase, base⟩] base := .up rfl found (.here _)
  have extended : one.compile (store.source quarry) =
      .ok { Script.sketch ["sand", "clay"] [] with kind := some "block" } :=
    (Script.compile_of_climbs climbs rfl (List.nodup_singleton _)).trans rfl
  have compiled : Script.CompileTo (store.source quarry) [one, other]
      [{ Script.sketch ["sand", "clay"] [] with kind := some "block" }, other] :=
    .cons extended (.cons (Script.compile_of_base_eq_none _ rfl) .nil)
  have single : Reads quarry (.ofText "a.megu") [one] :=
    .file (by decide +kernel) (by decide +kernel)
  have several : Reads quarry (.ofText "more") [other] :=
    .directory (by decide +kernel) (by decide +kernel)
  have chooses : Chooses quarry (some (.ofText "lib")) store := .directory (by decide +kernel)
  exact ⟨nofun, store, _, chooses, .cons single (.cons several .nil),
    Script.combine_eq_ok_iff.mpr ⟨_, compiled, by decide +kernel⟩⟩

theorem run_outcome_of_quarry :
    let argv := ["--extensions", "lib", "--log-level=error", "a.megu", "more"]
    quarry.StartsNameable ∧ Arguments.parse argv = .run quarryArguments ∧
      SettingsStore.capitals (levelName .empty quarryArguments) ∈ SettingsStore.levels ∧
      SettingsStore.flag .empty profile .fileLogging = false ∧
      (∀ result, Yields quarry .empty quarryArguments result →
        result.toJson.nestsWithin Json.nestingLimit = true) ∧
      ∃ outcome, run quarry .empty argv 0 = .ok outcome ∧ outcome.code = 0 ∧
        outcome.output = "\x7b\n  \"type\": \"block\",\n  \"pools\": \x7b\n" ++
          "    \"minecraft:clay\": \x7b\n      \"type\": \"minecraft:empty\"\n    \x7d,\n" ++
          "    \"minecraft:dirt\": \x7b\n      \"type\": \"minecraft:empty\"\n    \x7d\n" ++
          "  \x7d,\n  \"remove\": [\n    \"minecraft:sand\"\n  ]\n\x7d\n" := by
  intro argv
  have start : quarry.StartsNameable := by
    rintro place here
    cases here
    rfl
  have accepted : Arguments.parse argv = .run quarryArguments := rfl
  have level : SettingsStore.capitals (levelName .empty quarryArguments) ∈
      SettingsStore.levels := by
    decide
  have unlogged : SettingsStore.flag .empty profile .fileLogging = false := by decide
  have shallow : ∀ result, Yields quarry .empty quarryArguments result →
      result.toJson.nestsWithin Json.nestingLimit = true := by
    rintro result ⟨_, other⟩
    -- A run has one table only.
    have same := (produces_iff.mpr other).symm.trans (produces_iff.mpr produces_quarry)
    cases same
    decide +kernel
  have ready : Ready quarry .empty quarryArguments := ⟨⟨nofun, nofun⟩, ⟨_, rfl⟩, nofun⟩
  have outcome := run_outcome start level unlogged shallow accepted 0
  exact ⟨start, accepted, level, unlogged, shallow,
    (outcome.1 _).mpr ⟨quarryTable, ⟨ready, produces_quarry⟩, by decide +kernel⟩⟩

/-- A directory with a script in it that says nothing. -/
def sheet : FileTree := ⟨[("a.megu", .file "\x7b\x7d".toUTF8)], .present []⟩

section Overlong

variable {name : String} (overlong : FileTree.Overlong name)

include overlong

theorem classify_overlong : Arguments.classify? name = some (.operand name) := by
  have nonempty := overlong.ne_of_short "" (by decide)
  cases chars : name.toList with
  | nil => exact absurd (String.toList_eq_nil_iff.mp chars) nonempty
  | cons c rest =>
    have letter : c = 'n' := overlong.letters c (by rw [chars]; exact List.mem_cons_self)
    rw [Arguments.classify?, chars, letter]
    rfl

theorem parse_overlong :
    Arguments.parse [name] = .run { Arguments.none with paths := [.ofText name] } := by
  have separate := overlong.ne_of_short "--" (by decide)
  rw [Arguments.parse, Arguments.classifyAll?, if_neg separate, classify_overlong overlong]
  rfl

theorem firstFault_overlong :
    FirstFault sheet .empty { Arguments.none with paths := [.ofText name] } (.failed .system) := by
  have ready : Ready sheet .empty { Arguments.none with paths := [.ofText name] } :=
    ⟨⟨nofun, nofun⟩, ⟨_, rfl⟩, nofun⟩
  have refused : sheet.isDirectory (.ofText name) = .error .system := by
    rw [overlong.ofText_eq]
    exact overlong.isDirectory_eq rfl
  have named : namedPaths .empty { Arguments.none with paths := [.ofText name] } =
      [] ++ .ofText name :: [] := rfl
  exact .production ready (.reading nofun .unnamed named .nil (.refused refused))

end Overlong

/-- A path that is too long is not reported as one that does not exist. -/
theorem run_passes_refusal :
    let name := String.ofList (List.replicate 256 'n')
    let arguments : Arguments := { Arguments.none with paths := [.ofText name] }
    Arguments.parse [name] = .run arguments ∧
      SettingsStore.capitals (levelName .empty arguments) ∈ SettingsStore.levels ∧
      SettingsStore.flag .empty profile .fileLogging = false ∧
      run sheet .empty [name] 0 = .error .system := by
  intro name arguments
  have accepted : Arguments.parse [name] = .run arguments :=
    parse_overlong FileTree.overlong_replicate
  have level : SettingsStore.capitals (levelName .empty arguments) ∈ SettingsStore.levels := by
    decide
  have unlogged : SettingsStore.flag .empty profile .fileLogging = false := by decide
  refine ⟨accepted, level, unlogged, ?_⟩
  rw [run, accepted]
  exact runWith_of_unreported level unlogged
    (firstFault_overlong FileTree.overlong_replicate) rfl 0

end CommandLine

end LootScript
