import LootScript.CommandLine.Run
import LootScript.Proofs.Script.Precedence

/-!
# Producing a table

The stages between settings that are in order and a finished table: the pack description, the store
of base scripts, the scripts in the order in which their paths are named, and their combination. A
table is produced exactly if every stage succeeds; otherwise the first stage that fails decides how
the run fails, and within a stage the first path or script.
-/
namespace LootScript

namespace CommandLine

variable {files : FileTree} {settings : SettingsStore} {arguments : Arguments} {failure : Failure}
  {path : Path} {paths : List Path} {scripts : List Script} {store : Store} {result : Script}

/-! ## What is asked for -/

/-- The paths that are named, or else the configured directory. -/
def namedPaths (settings : SettingsStore) (arguments : Arguments) : List Path :=
  match arguments.paths with
  | [] => [settings.scriptsPath profile]
  | paths => paths

/-- The directory of base scripts, as it is named, or else configured. -/
def namedExtensions (settings : SettingsStore) (arguments : Arguments) : Option Path :=
  arguments.extensions <|> settings.extensionsPath profile

/-- The scripts that a path stands for: all of a directory, or a single file. -/
inductive Reads (files : FileTree) : Path → List Script → Prop
  | file {path : Path} {script : Script} : files.isDirectory path = .ok false →
    (Script.interpretFile files path).result = .ok script → Reads files path [script]
  | directory {path : Path} {scripts : List Script} : files.isDirectory path = .ok true →
    (Script.interpretDirectory files path).result = .ok scripts → Reads files path scripts

inductive FailsToRead (files : FileTree) : Path → Failure → Prop
  | refused {path : Path} {failure : Failure} : files.isDirectory path = .error failure →
    FailsToRead files path failure
  | file {path : Path} {failure : Failure} : files.isDirectory path = .ok false →
    (Script.interpretFile files path).result = .error failure → FailsToRead files path failure
  | directory {path : Path} {failure : Failure} : files.isDirectory path = .ok true →
    (Script.interpretDirectory files path).result = .error failure →
      FailsToRead files path failure

/-- Base scripts are looked for in a directory, if there is one, before the built-in ones. -/
inductive Chooses (files : FileTree) : Option Path → Store → Prop
  | unnamed : Chooses files none (.registry Builtin.registry)
  | missing {path : Path} : files.isDirectory path = .ok false →
    Chooses files (some path) (.registry Builtin.registry)
  | directory {path : Path} : files.isDirectory path = .ok true →
    Chooses files (some path) (.chain [.directory path, .registry Builtin.registry])

def PackPasses (files : FileTree) (arguments : Arguments) : Prop :=
  ∀ path, arguments.packMeta = some path → Pack.check files path = .ok ()

def Produces (files : FileTree) (settings : SettingsStore) (arguments : Arguments)
    (result : Script) : Prop :=
  PackPasses files arguments ∧
    ∃ store groups, Chooses files (namedExtensions settings arguments) store ∧
      List.Forall₂ (Reads files) (namedPaths settings arguments) groups ∧
      Script.combine groups.flatten (store.source files) = .ok result

/-- The first stage that fails, and how it does. -/
inductive Stumbles (files : FileTree) (settings : SettingsStore) (arguments : Arguments) :
    Failure → Prop
  | pack {path : Path} {failure : Failure} : arguments.packMeta = some path →
    Pack.check files path = .error failure → Stumbles files settings arguments failure
  | extensions {path : Path} {failure : Failure} : PackPasses files arguments →
    namedExtensions settings arguments = some path → files.isDirectory path = .error failure →
      Stumbles files settings arguments failure
  | reading {store : Store} {before after : List Path} {path : Path} {groups : List (List Script)}
    {failure : Failure} : PackPasses files arguments →
    Chooses files (namedExtensions settings arguments) store →
    namedPaths settings arguments = before ++ path :: after →
    List.Forall₂ (Reads files) before groups → FailsToRead files path failure →
      Stumbles files settings arguments failure
  | compiling {store : Store} {groups : List (List Script)} {index : Nat} {cause : Failure} :
    PackPasses files arguments → Chooses files (namedExtensions settings arguments) store →
    List.Forall₂ (Reads files) (namedPaths settings arguments) groups →
    Script.FailsFirstAt (store.source files) groups.flatten index cause →
      Stumbles files settings arguments
        (if cause.isScriptFault then .combination index cause else cause)

/-! ## Reading paths -/

theorem reads_iff : (scriptsAt files path).result = .ok scripts ↔ Reads files path scripts := by
  simp only [scriptsAt, Traced.result_bind, Traced.result_ofExcept, bind_eq_ok_iff]
  constructor
  · rintro ⟨isDirectory, looked, rest⟩
    cases isDirectory with
    | true => exact .directory looked rest
    | false =>
      simp only [Bool.false_eq_true, if_false, Traced.result_bind, bind_eq_ok_iff] at rest
      obtain ⟨script, read, single⟩ := rest
      cases single
      exact .file looked read
  · intro reads
    cases reads with
    | directory looked read => exact ⟨true, looked, read⟩
    | file looked read =>
      refine ⟨false, looked, ?_⟩
      simp only [Bool.false_eq_true, if_false, Traced.result_bind, read]
      rfl

theorem failsToRead_iff :
    (scriptsAt files path).result = .error failure ↔ FailsToRead files path failure := by
  simp only [scriptsAt, Traced.result_bind, Traced.result_ofExcept, bind_eq_error_iff]
  constructor
  · rintro (refused | ⟨isDirectory, looked, rest⟩)
    · exact .refused refused
    · cases isDirectory with
      | true => exact .directory looked rest
      | false =>
        simp only [Bool.false_eq_true, if_false, Traced.result_bind, bind_eq_error_iff] at rest
        rcases rest with failed | ⟨script, read, single⟩
        · exact .file looked failed
        · cases single
  · intro fails
    cases fails with
    | refused refused => exact .inl refused
    | directory looked failed => exact .inr ⟨true, looked, failed⟩
    | file looked failed =>
      refine .inr ⟨false, looked, ?_⟩
      simp only [Bool.false_eq_true, if_false, Traced.result_bind, failed]
      rfl

theorem result_collect (files : FileTree) (paths : List Path) :
    (collect files paths).result =
      (paths.mapM fun path => (scriptsAt files path).result).map List.flatten := by
  induction paths with
  | nil => rfl
  | cons path rest ih =>
    simp only [collect, Traced.result_bind, ih, Traced.result_pure, List.mapM_cons]
    cases (scriptsAt files path).result with
    | error failure => rfl
    | ok scripts => cases rest.mapM fun path => (scriptsAt files path).result <;> rfl

theorem collect_eq_ok_iff :
    (collect files paths).result = .ok scripts ↔
      ∃ groups, List.Forall₂ (Reads files) paths groups ∧ groups.flatten = scripts := by
  simp only [result_collect, map_eq_ok_iff, mapM_eq_ok_iff, reads_iff]

theorem collect_eq_error_iff :
    (collect files paths).result = .error failure ↔
      ∃ before path after groups, paths = before ++ path :: after ∧
        List.Forall₂ (Reads files) before groups ∧ FailsToRead files path failure := by
  simp only [result_collect, map_eq_error_iff, mapM_eq_error_iff, reads_iff, failsToRead_iff]

/-! ## Choosing the store -/

theorem result_chooseStore_some (files : FileTree) (path : Path) :
    (chooseStore files (some path)).result = (files.isDirectory path).map fun found =>
      if found then .chain [.directory path, .registry Builtin.registry]
      else .registry Builtin.registry := by
  simp only [chooseStore, Traced.result_bind, Traced.result_report, Traced.result_ofExcept]
  cases files.isDirectory path with
  | error failure => rfl
  | ok found => cases found <;> rfl

theorem chooses_iff {named : Option Path} :
    (chooseStore files named).result = .ok store ↔ Chooses files named store := by
  cases named with
  | none =>
    constructor
    · intro chosen
      cases chosen
      exact .unnamed
    · intro chooses
      cases chooses
      rfl
  | some path =>
    rw [result_chooseStore_some, map_eq_ok_iff]
    constructor
    · rintro ⟨found, looked, rfl⟩
      cases found with
      | true => exact .directory looked
      | false => exact .missing looked
    · intro chooses
      cases chooses with
      | missing looked => exact ⟨false, looked, rfl⟩
      | directory looked => exact ⟨true, looked, rfl⟩

theorem chooseStore_eq_error_iff {named : Option Path} :
    (chooseStore files named).result = .error failure ↔
      ∃ path, named = some path ∧ files.isDirectory path = .error failure := by
  cases named with
  | none =>
    constructor
    · intro failed
      cases failed
    · rintro ⟨path, absent, _⟩
      cases absent
  | some path =>
    rw [result_chooseStore_some, map_eq_error_iff]
    simp

/-! ## Producing -/

/-- The check of the pack description, if one is named. -/
def checkPack (files : FileTree) (arguments : Arguments) : Except Failure Unit :=
  match arguments.packMeta with
  | some path => Pack.check files path
  | none => .ok ()

theorem checkPack_eq_ok_iff : checkPack files arguments = .ok () ↔ PackPasses files arguments := by
  unfold checkPack PackPasses
  cases arguments.packMeta <;> simp

theorem checkPack_eq_error_iff :
    checkPack files arguments = .error failure ↔
      ∃ path, arguments.packMeta = some path ∧ Pack.check files path = .error failure := by
  unfold checkPack
  cases arguments.packMeta <;> simp

theorem result_produce (files : FileTree) (settings : SettingsStore) (arguments : Arguments) :
    (produce files settings arguments).result = (do
      checkPack files arguments
      let store ← (chooseStore files (namedExtensions settings arguments)).result
      let scripts ← (collect files (namedPaths settings arguments)).result
      Script.combine scripts (store.source files)) := by
  -- The rest of the work stands behind either branch of the check.
  cases named : arguments.packMeta with
  | none =>
    simp only [produce, named, checkPack, Traced.result_bind, Traced.result_report,
      Script.result_assemble]
    rfl
  | some path =>
    simp only [produce, named, checkPack, Traced.result_bind, Traced.result_report,
      Traced.result_ofExcept, Script.result_assemble]
    rfl

/-- A table is produced exactly if every stage succeeds. -/
theorem produces_iff :
    (produce files settings arguments).result = .ok result ↔
      Produces files settings arguments result := by
  simp only [result_produce, bind_eq_ok_iff, chooses_iff, collect_eq_ok_iff]
  constructor
  · rintro ⟨_, passes, store, chooses, _, ⟨groups, each, rfl⟩, combined⟩
    exact ⟨checkPack_eq_ok_iff.mp passes, store, groups, chooses, each, combined⟩
  · rintro ⟨passes, store, groups, chooses, each, combined⟩
    exact ⟨(), checkPack_eq_ok_iff.mpr passes, store, chooses, _, ⟨groups, each, rfl⟩, combined⟩

/-- Otherwise the first stage that fails decides. -/
theorem stumbles_iff :
    (produce files settings arguments).result = .error failure ↔
      Stumbles files settings arguments failure := by
  simp only [result_produce, bind_eq_error_iff, checkPack_eq_error_iff, chooseStore_eq_error_iff,
    chooses_iff, collect_eq_error_iff, collect_eq_ok_iff, Script.combine_eq_error_iff]
  constructor
  · rintro (⟨path, named, refused⟩ | ⟨_, passes, ⟨path, named, refused⟩ | ⟨store, chooses, rest⟩⟩)
    · exact .pack named refused
    · exact .extensions (checkPack_eq_ok_iff.mp passes) named refused
    · have passes := checkPack_eq_ok_iff.mp passes
      rcases rest with ⟨before, path, after, groups, split, each, fails⟩ |
        ⟨_, ⟨groups, each, rfl⟩, index, cause, first, rfl⟩
      · exact .reading passes chooses split each fails
      · exact .compiling passes chooses each first
  · intro stumbles
    cases stumbles with
    | pack named refused => exact .inl ⟨_, named, refused⟩
    | extensions passes named refused =>
      exact .inr ⟨(), checkPack_eq_ok_iff.mpr passes, .inl ⟨_, named, refused⟩⟩
    | reading passes chooses split each fails =>
      exact .inr ⟨(), checkPack_eq_ok_iff.mpr passes, .inr ⟨_, chooses,
        .inl ⟨_, _, _, _, split, each, fails⟩⟩⟩
    | compiling passes chooses each first =>
      exact .inr ⟨(), checkPack_eq_ok_iff.mpr passes, .inr ⟨_, chooses,
        .inr ⟨_, ⟨_, each, rfl⟩, _, _, first, rfl⟩⟩⟩

end CommandLine

end LootScript
