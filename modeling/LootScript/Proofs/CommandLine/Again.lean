import LootScript.Proofs.CommandLine.Outcome
import LootScript.Proofs.Json.RoundTrip
import LootScript.Proofs.Log.File
import LootScript.Proofs.Script.Distinct
import LootScript.Proofs.Script.SingleFile

/-!
# Running on what was printed

What a run prints is a script that says the same by itself: it extends nothing, its pools are those
that were left, and removing again what was removed takes nothing away. So a run on a file with this
content prints it again, whatever base scripts there are. It has to look for the directory of base
scripts, though, even if none of them is needed, and if the system refuses that, the run is over.
-/
namespace LootScript

namespace Script

variable {files : FileTree} {path : Path} {content : ByteArray} {script result : Script}

/-! ## What combined once combines to itself -/

theorem combine_combined {source : Source} {scripts : List Script}
    (combined : combine scripts source = .ok result) (other : Source) :
    combine [result] other = .ok result := by
  -- The result has no reference left, so the source is not asked for anything.
  obtain ⟨compiled, -, rfl⟩ := combine_eq_ok_iff.mp combined
  have plain : (overlayAll compiled).applyRemovals.base = none := base_overlayAll compiled
  rw [combine_of_base_eq_none other (by simp), overlayAll_singleton,
    withoutBase_of_base_eq_none plain, applyRemovals_applyRemovals]

/-! ## Reading the printed text -/

theorem ofContent_indented {text : String} (formed : script.WellFormed)
    (distinct : script.toJson.Distinct) (printed : script.toJson.indented? = some text)
    (path : Path) : ofContent path (text ++ "\n").toUTF8 = .ok script :=
  ofContent_of_decode? (Json.decode?_indented distinct printed) (ofJson_toJson_of_wellFormed formed)
    path

end Script

namespace CommandLine

variable {files logged : FileTree} {settings : SettingsStore} {arguments : Arguments} {now : Int}
  {path : Path} {paths : List Path} {result : Script} {outcome : Outcome}

/-! ## What has led to a table -/

theorem Reads.isRead {scripts : List Script} (reads : Reads files path scripts) :
    ∀ script ∈ scripts, script.IsRead := by
  cases reads with
  | file _ read => simpa using Script.isRead_of_interpretFile read
  | directory _ read => exact Script.isRead_of_interpretDirectory read

theorem isRead_of_forall₂ {groups : List (List Script)}
    (each : List.Forall₂ (Reads files) paths groups) :
    ∀ script ∈ groups.flatten, script.IsRead := by
  induction each with
  | nil => exact List.forall_mem_nil _
  | cons reads _ ih => exact List.forall_mem_append.mpr ⟨reads.isRead, ih⟩

theorem Chooses.distinct {named : Option Path} {store : Store}
    (chooses : Chooses files named store) :
    ∀ definition ∈ store.registered, definition.Distinct := by
  cases chooses with
  | unnamed | missing _ => exact Builtin.distinct_registry
  | directory _ =>
    intro definition mem
    simp only [Store.registered, Store.registeredAll, List.nil_append, List.append_nil] at mem
    exact Builtin.distinct_registry definition mem

/-- What a run produces can be read again, and combines to itself alone. -/
theorem Produces.again (produces : Produces files settings arguments result) :
    result.WellFormed ∧ result.toJson.Distinct ∧
      ∀ source, Script.combine [result] source = .ok result := by
  obtain ⟨-, store, groups, chooses, each, combined⟩ := produces
  have read := isRead_of_forall₂ each
  exact ⟨Script.wellFormed_of_combine (fun script mem => (read script mem).wellFormed) combined,
    Script.distinct_of_combine chooses.distinct read combined, Script.combine_combined combined⟩

theorem produces_of_conclude {report : SettingsReport}
    (concluded : (conclude files settings arguments report).result = .ok (some result)) :
    Produces files settings arguments result := by
  unfold conclude at concluded
  split at concluded
  · cases concluded
  · simp only [Traced.result_bind, bind_eq_ok_iff] at concluded
    obtain ⟨-, -, concluded⟩ := concluded
    split at concluded
    · next script produced =>
      cases concluded
      exact produces_iff.mp produced
    · split at concluded <;> cases concluded

theorem produces_of_work (worked : (work files settings arguments).result = .ok (some result)) :
    Produces files settings arguments result := by
  cases checked : settings.check files profile with
  | error failure =>
    simp only [work, Traced.result_bind, Traced.result_ofExcept, checked] at worked
    cases worked
  | ok report =>
    rw [(work_of_check checked).1] at worked
    exact produces_of_conclude worked

/-- A run that succeeds prints what it has produced. -/
theorem produces_of_runWith (ran : runWith files settings arguments now = .ok outcome)
    (succeeded : outcome.code = 0) :
    ∃ logged result text, Produces logged settings arguments result ∧
      result.toJson.indented? = some text ∧ outcome.output = text ++ "\n" := by
  unfold runWith at ran
  split at ran
  · cases ran
    cases succeeded
  · cases ran
  · obtain ⟨⟨logging, made, ready⟩, -, ran⟩ := bind_eq_ok_iff.mp ran
    obtain ⟨logged, -, ran⟩ := bind_eq_ok_iff.mp ran
    obtain ⟨later, -, ran⟩ := bind_eq_ok_iff.mp ran
    obtain ⟨produced, worked, ran⟩ := bind_eq_ok_iff.mp ran
    cases produced with
    | none =>
      -- Without a table the code is 1.
      cases ran
      cases succeeded
    | some result =>
      dsimp only at ran
      split at ran
      · next text printed =>
        cases ran
        exact ⟨logged, result, text, produces_of_work worked, printed, rfl⟩
      · cases ran

/-! ## A second run -/

/--
The run comes to its work: its settings are in order, logging is set up, and the log file, if there
is one, has its first rows.
-/
structure Begins (files : FileTree) (settings : SettingsStore) (arguments : Arguments) (now : Int)
    (logged : FileTree) : Prop where
  usable : SettingsUsable files arguments
  logging : ∃ logging made ready, setUpLogging files settings arguments =
    .ok (logging, made, ready) ∧ logging.keep made now ready = .ok logged
  checked : ∃ report, settings.check logged profile = .ok report

/-- A run that has begun ends as its work does, since all that it reports can be kept. -/
theorem exists_deliver_of_begins (begins : Begins files settings arguments now logged) :
    ∃ later diagnostics, runWith files settings arguments now =
      (work logged settings arguments).result >>= deliver later diagnostics := by
  obtain ⟨usable, ⟨logging, made, ready, setUp, kept⟩, -⟩ := begins
  obtain ⟨later, kept'⟩ :=
    Logging.exists_keep_again setUp kept (work logged settings arguments).events
  exact ⟨later, _, runWith_of_kept (checkSettings_of_usable usable) setUp kept kept'⟩

section Begun

variable (begins : Begins files settings arguments now logged) (named : arguments.paths ≠ [])

include begins named

/-- A run that has begun and produces a table prints it, if it can be printed. -/
theorem runWith_of_begins {text : String} (produces : Produces logged settings arguments result)
    (printed : result.toJson.indented? = some text) :
    ∃ outcome, runWith files settings arguments now = .ok outcome ∧ outcome.code = 0 ∧
      outcome.output = text ++ "\n" := by
  obtain ⟨later, diagnostics, ran⟩ := exists_deliver_of_begins begins
  obtain ⟨report, checked⟩ := begins.checked
  have worked : (work logged settings arguments).result = .ok (some result) :=
    (work_of_check checked).1.trans
      (conclude_of_produces (fun unnamed => absurd unnamed named) produces)
  have delivered : deliver later diagnostics (some result) =
      .ok ⟨0, text ++ "\n", diagnostics, later⟩ := by
    rw [deliver, printed]
  rw [ran, worked]
  exact ⟨_, delivered, rfl, rfl⟩

/-- A run that has begun and stumbles over something that it does not report is cut short. -/
theorem runWith_of_stumbles {failure : Failure}
    (stumbles : Stumbles logged settings arguments failure)
    (unreported : isReported failure = false) :
    runWith files settings arguments now = .error failure := by
  obtain ⟨later, diagnostics, ran⟩ := exists_deliver_of_begins begins
  obtain ⟨report, checked⟩ := begins.checked
  have stopped : (work logged settings arguments).result = .error failure :=
    (work_of_check checked).1.trans
      (conclude_of_unreported (fun unnamed => absurd unnamed named) stumbles unreported)
  rw [ran, stopped]
  rfl

end Begun

/-- The system refuses to look at the directory of base scripts that is named or configured. -/
def ExtensionsRefused (files : FileTree) (settings : SettingsStore) (arguments : Arguments) :
    Prop :=
  ∃ extensions, namedExtensions settings arguments = some extensions ∧
    files.locate extensions = .refused

/-- There is a store of base scripts unless the system refuses to look at their directory. -/
theorem exists_chooses (looked : ¬ExtensionsRefused files settings arguments) :
    ∃ store, Chooses files (namedExtensions settings arguments) store := by
  cases named : namedExtensions settings arguments with
  | none => exact ⟨_, .unnamed⟩
  | some path =>
    cases found : files.isDirectory path with
    | error failure =>
      exact absurd ⟨path, named, (FileTree.isDirectory_eq_error_iff.mp found).2⟩ looked
    | ok isDirectory =>
      cases isDirectory with
      | false => exact ⟨_, .missing found⟩
      | true => exact ⟨_, .directory found⟩

/-- Such a refusal ends the run, whatever there is to be read. -/
theorem runWith_of_extensionsRefused (begins : Begins files settings arguments now logged)
    (named : arguments.paths ≠ []) (unchecked : arguments.packMeta = none)
    (refused : ExtensionsRefused logged settings arguments) :
    runWith files settings arguments now = .error .system := by
  obtain ⟨extensions, called, located⟩ := refused
  have passes : PackPasses logged arguments := by simp [PackPasses, unchecked]
  have failed : logged.isDirectory extensions = .error .system :=
    FileTree.isDirectory_eq_error_iff.mpr ⟨rfl, located⟩
  exact runWith_of_stumbles begins named (.extensions passes called failed) rfl

/-- Without a log file, a run begins with the files as they are. -/
theorem begins_of_unlogged
    (level : SettingsStore.capitals (levelName settings arguments) ∈ SettingsStore.levels)
    (unlogged : settings.flag profile .fileLogging = false)
    (usable : SettingsUsable files arguments)
    (checked : ∃ report, settings.check files profile = .ok report) (now : Int) :
    Begins files settings arguments now files := by
  obtain ⟨logging, ready, setUp, fileless, -⟩ := exists_setUpLogging level unlogged
  refine ⟨usable, ⟨logging, files, ready, setUp, ?_⟩, checked⟩
  rw [Logging.keep, fileless]

/--
A run that is given only a file with what any run has printed prints the same again, whatever its
settings say and whatever base scripts there are, unless the system refuses to look at the directory
of base scripts: then the run is cut short. Other registries and directories of base scripts would
not lead to another table. The second run must come to its work, and the file must still have that
content when it is read, so it must not be the log file.
-/
theorem run_again {files' : FileTree} {settings' : SettingsStore} {arguments' : Arguments}
    {argv argv' : List String} {now' : Int}
    (accepted : Arguments.parse argv = .run arguments)
    (ran : run files settings argv now = .ok outcome) (succeeded : outcome.code = 0)
    (accepted' : Arguments.parse argv' = .run arguments')
    (alone : arguments'.paths = [path]) (unchecked : arguments'.packMeta = none)
    (begins : Begins files' settings' arguments' now' logged)
    (stored : logged.read path = .ok outcome.output.toUTF8) :
    (¬ExtensionsRefused logged settings' arguments' →
      ∃ again, run files' settings' argv' now' = .ok again ∧ again.code = 0 ∧
        again.output = outcome.output) ∧
    (ExtensionsRefused logged settings' arguments' →
      run files' settings' argv' now' = .error .system) ∧
    ∀ store, ∃ result text,
      (collect logged [path] >>= Script.assemble logged store).result = .ok result ∧
        result.toJson.indented? = some text ∧ text ++ "\n" = outcome.output := by
  -- The text is that of a table which combines to itself, so only reading it is left.
  rw [run, accepted] at ran
  obtain ⟨logged₀, result, text, produces, printed, output⟩ := produces_of_runWith ran succeeded
  obtain ⟨formed, distinct, again⟩ := produces.again
  rw [output] at stored
  have read : (Script.interpretFile logged path).result = .ok result :=
    Script.interpretFile_of_content stored (Script.ofContent_indented formed distinct printed path)
  have reads : Reads logged path [result] := .file (FileTree.isDirectory_of_read stored).1 read
  have named : arguments'.paths ≠ [] := by simp [alone]
  refine ⟨fun looked => ?_, fun refused => ?_, fun store => ?_⟩
  · obtain ⟨store, chooses⟩ := exists_chooses looked
    have each : List.Forall₂ (Reads logged) (namedPaths settings' arguments') [[result]] := by
      rw [namedPaths, alone]
      exact .cons reads .nil
    have produces' : Produces logged settings' arguments' result :=
      ⟨by simp [PackPasses, unchecked], store, _, chooses, each, again _⟩
    rw [run, accepted', output]
    exact runWith_of_begins begins named produces' printed
  · rw [run, accepted']
    exact runWith_of_extensionsRefused begins named unchecked refused
  · -- The table extends nothing, so it does not matter what the store holds.
    have collected : (collect logged [path]).result = .ok [result] :=
      collect_eq_ok_iff.mpr ⟨[[result]], .cons reads .nil, rfl⟩
    refine ⟨result, text, ?_, printed, output.symm⟩
    rw [Traced.result_bind, collected]
    exact (Script.result_assemble ..).trans (again _)

/-- A script with two drops, and one that takes one of them away. -/
def beach : FileTree where
  root := [
    ("beach.megu", .file ("\x7b\"pools\": \x7b\"sand\": \x7b\"type\": \"empty\", " ++
      "\"functions\": [2.50]\x7d, \"dirt\": \x7b\"type\": \"empty\"\x7d\x7d\x7d").toUTF8),
    ("plain.megu", .file "\x7b\"remove\": [\"dirt\"]\x7d".toUTF8)]
  workingDirectory := .present []

/-- A directory with a file of some content, and a directory for base scripts. -/
def single (content : ByteArray) : FileTree where
  root := [("bases", .directory [("minecraft", .directory [])]), ("again.megu", .file content)]
  workingDirectory := .present []

/-- What is read again, with base scripts from a place of their own. -/
def againWith (extensions : String) : Arguments :=
  { Arguments.none with
    paths := [.ofText "again.megu"], extensions := some (.ofText extensions) }

theorem begins_again (extensions : String) (content : ByteArray) :
    Begins (single content) .empty (againWith extensions) 0 (single content) := by
  have level : SettingsStore.capitals (levelName .empty (againWith extensions)) ∈
      SettingsStore.levels := by
    have shown : levelName .empty (againWith extensions) =
        SettingsStore.consoleLevel .empty profile := rfl
    rw [shown]
    decide
  exact begins_of_unlogged level (by decide) ⟨nofun, nofun⟩ ⟨_, rfl⟩ 0

theorem run_again_on_beach :
    ∃ outcome, run beach .empty ["beach.megu", "plain.megu"] 0 = .ok outcome ∧
      outcome.code = 0 ∧
      ¬ExtensionsRefused (single outcome.output.toUTF8) .empty (againWith "bases") ∧
      ∃ again, run (single outcome.output.toUTF8) .empty
          ["--extensions", "bases", "again.megu"] 0 = .ok again ∧
        again.code = 0 ∧ again.output = outcome.output := by
  have evaluated : (run beach .empty ["beach.megu", "plain.megu"] 0).map Outcome.code = .ok 0 := by
    decide +kernel
  obtain ⟨outcome, ran, succeeded⟩ := map_eq_ok_iff.mp evaluated
  have accepted : Arguments.parse ["--extensions", "bases", "again.megu"] =
      .run (againWith "bases") := rfl
  have looked : ¬ExtensionsRefused (single outcome.output.toUTF8) .empty (againWith "bases") := by
    rintro ⟨extensions, named, refused⟩
    cases named
    cases refused
  have again := run_again rfl ran succeeded accepted rfl rfl (begins_again "bases" _) rfl
  exact ⟨outcome, ran, succeeded, looked, again.1 looked⟩

theorem parse_extensions_overlong {name : String} (overlong : FileTree.Overlong name) :
    Arguments.parse ["--extensions", name, "again.megu"] = .run (againWith name) := by
  have separate := overlong.ne_of_short "--" (by decide)
  have words : Arguments.classifyAll? ["--extensions", name, "again.megu"] =
      some [.option .extensions none, .operand name, .operand "again.megu"] := by
    simp only [Arguments.classifyAll?, if_neg separate, classify_overlong overlong]
    rfl
  have given : Arguments.Draft.start.set .extensions name =
      ⟨{ Arguments.none with extensions := some (.ofText name) }, .ahead, false⟩ := by
    simp only [Arguments.Draft.set, if_neg separate]
    rfl
  rw [Arguments.parse, words]
  simp only [Arguments.read, given]
  rfl

/-- A directory of base scripts whose name is too long does not count as one that is missing. -/
theorem run_again_passes_refusal :
    let name := String.ofList (List.replicate 256 'n')
    let printed := "\x7b\n  \"pools\": \x7b\x7d\n\x7d\n"
    (run sheet .empty ["a.megu"] 0).map (fun outcome => (outcome.code, outcome.output)) =
        .ok (0, printed) ∧
      Arguments.parse ["--extensions", name, "again.megu"] = .run (againWith name) ∧
      Begins (single printed.toUTF8) .empty (againWith name) 0 (single printed.toUTF8) ∧
      (single printed.toUTF8).read (.ofText "again.megu") = .ok printed.toUTF8 ∧
      run (single printed.toUTF8) .empty ["--extensions", name, "again.megu"] 0 =
        .error .system := by
  have overlong := FileTree.overlong_replicate
  generalize String.ofList (List.replicate 256 'n') = name at overlong
  intro name printed
  have accepted : Arguments.parse ["--extensions", name, "again.megu"] = .run (againWith name) :=
    parse_extensions_overlong overlong
  have begins := begins_again name printed.toUTF8
  have refused : ExtensionsRefused (single printed.toUTF8) .empty (againWith name) := by
    refine ⟨.ofText name, rfl, ?_⟩
    rw [overlong.ofText_eq]
    exact overlong.locate_eq rfl
  refine ⟨by decide +kernel, accepted, begins, rfl, ?_⟩
  rw [run, accepted]
  exact runWith_of_extensionsRefused begins (List.cons_ne_nil _ _) rfl refused

end CommandLine

end LootScript
