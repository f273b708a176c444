import LootScript.Proofs.CommandLine.Outcome
import LootScript.Proofs.Log.File
import LootScript.Proofs.Script.Directory

/-!
# Directories on the command line

A directory that is named on the command line stands for its script files, in the order of their
names. It makes no difference to what a run prints whether the directory is named, or its script
files are in its place; a directory without script files can be left out, as long as something else
is named.
-/
namespace LootScript

namespace CommandLine

variable {files : FileTree} {settings : SettingsStore} {arguments : Arguments} {now : Int}
  {path : Path} {paths paths' : List Path} {entries : List (String × Entry)} {names : List String}

/-! ## Collecting scripts -/

theorem result_collect_append (files : FileTree) (paths more : List Path) :
    (collect files (paths ++ more)).result = (do
      let scripts ← (collect files paths).result
      let others ← (collect files more).result
      return scripts ++ others) := by
  simp only [result_collect, List.mapM_append]
  cases paths.mapM fun path => (scriptsAt files path).result with
  | error failure => rfl
  | ok groups =>
    cases more.mapM fun path => (scriptsAt files path).result with
    | error failure => rfl
    | ok groups' => exact congrArg Except.ok List.flatten_append

theorem result_collect_singleton (files : FileTree) (path : Path) :
    (collect files [path]).result = (scriptsAt files path).result := by
  simp only [collect, Traced.result_bind, Traced.result_pure]
  cases (scriptsAt files path).result <;> simp [bind, Except.bind]

/-- A path that is no directory is read as a file, even if the system refuses to look at it. -/
theorem result_scriptsAt_of_ne (other : files.isDirectory path ≠ .ok true) :
    (scriptsAt files path).result =
      (Script.interpretFile files path).result.map fun script => [script] := by
  simp only [scriptsAt, Traced.result_bind, Traced.result_ofExcept]
  cases looked : files.isDirectory path with
  | error failure =>
    obtain ⟨rfl, refused⟩ := FileTree.isDirectory_eq_error_iff.mp looked
    rw [Script.interpretFile_of_refused refused]
    rfl
  | ok isDirectory =>
    cases isDirectory with
    | true => exact absurd looked other
    | false =>
      change (Script.interpretFile files path >>= fun script => pure [script]).result = _
      rw [Traced.result_bind]
      cases (Script.interpretFile files path).result <;> rfl

theorem result_collect_of_files (others : ∀ path ∈ paths, files.isDirectory path ≠ .ok true) :
    (collect files paths).result =
      paths.mapM fun path => (Script.interpretFile files path).result := by
  induction paths with
  | nil => rfl
  | cons path rest ih =>
    rw [List.forall_mem_cons] at others
    simp only [collect, List.mapM_cons, Traced.result_bind, Traced.result_pure,
      result_scriptsAt_of_ne others.1, ih others.2]
    cases (Script.interpretFile files path).result with
    | error failure => rfl
    | ok script =>
      cases rest.mapM fun path => (Script.interpretFile files path).result <;> rfl

theorem result_scriptsAt_of_directory (directory : files.isDirectory path = .ok true) :
    (scriptsAt files path).result = (Script.interpretDirectory files path).result := by
  simp only [scriptsAt, Traced.result_bind, Traced.result_ofExcept, directory]
  rfl

/-- Naming a directory is naming its script files in its place. -/
theorem result_collect_listing (distinct : files.Distinct) (listed : files.list path = .ok entries)
    (granted : ∀ name ∈ entries.map Prod.fst, FileTree.isTooLong (path.child name) = false)
    (listing : Script.Listing entries names) (before after : List Path) :
    (collect files (before ++ path :: after)).result =
      (collect files (before ++ (names.map path.child ++ after))).result := by
  have once := FileTree.nodup_of_list distinct listed
  have directory := FileTree.isDirectory_of_list listed
  have others : ∀ child ∈ names.map path.child, files.isDirectory child ≠ .ok true := by
    rw [List.forall_mem_map]
    intro name member
    obtain ⟨⟨content, inside⟩, script⟩ := (listing.members name).mp member
    refine FileTree.isDirectory_child_ne distinct listed inside ?_
    -- The way up does not end like a script file.
    rintro rfl
    revert script
    decide
  have single : (collect files [path]).result =
      (collect files (names.map path.child)).result := by
    rw [result_collect_singleton, result_scriptsAt_of_directory directory,
      Script.interpretDirectory_of_listing listed granted once listing,
      result_collect_of_files others, List.mapM_map]
    rfl
  rw [← List.singleton_append, result_collect_append, result_collect_append files before,
    result_collect_append files [path], result_collect_append files (names.map path.child), single]

/-! ## Runs that collect the same -/

/-- What is left of the work when what has been produced, or why it was not, is known. -/
def settle : Except Failure Script → Except Failure (Option Script)
  | .ok script => .ok (some script)
  | .error failure => if isReported failure then .ok none else .error failure

theorem result_conclude_of_named (named : arguments.paths ≠ []) (report : SettingsReport) :
    (conclude files settings arguments report).result =
      settle (produce files settings arguments).result := by
  rw [conclude_of_valid fun unnamed => absurd unnamed named]
  simp only [Traced.result_bind, Traced.result_reportAll]
  cases (produce files settings arguments).result with
  | ok script => rfl
  | error failure =>
    cases reported : isReported failure <;> simp [settle, reported] <;> rfl

theorem result_produce_congr (named : paths ≠ []) (named' : paths' ≠ [])
    (same : (collect files paths).result = (collect files paths').result) :
    (produce files settings { arguments with paths := paths }).result =
      (produce files settings { arguments with paths := paths' }).result := by
  have asked {paths : List Path} (named : paths ≠ []) :
      namedPaths settings { arguments with paths := paths } = paths := by
    cases paths with
    | nil => exact absurd rfl named
    | cons path rest => rfl
  rw [result_produce, result_produce, asked named, asked named', same]
  rfl

theorem result_work_congr (settings : SettingsStore) (arguments : Arguments)
    (named : paths ≠ []) (named' : paths' ≠ [])
    (same : (collect files paths).result = (collect files paths').result) :
    (work files settings { arguments with paths := paths }).result =
      (work files settings { arguments with paths := paths' }).result := by
  cases checked : settings.check files profile with
  | error failure =>
    simp only [work, Traced.result_bind, Traced.result_ofExcept, checked]
    rfl
  | ok report =>
    -- Both runs name paths, so neither asks whether the settings are valid.
    rw [(work_of_check checked).1, (work_of_check checked).1, result_conclude_of_named named,
      result_conclude_of_named named', result_produce_congr named named' same]

/-- The files that a run reads from: the log file, if there is one, has its first rows. -/
def ReadsFrom (files : FileTree) (settings : SettingsStore) (arguments : Arguments) (now : Int)
    (logged : FileTree) : Prop :=
  ∃ logging made ready, setUpLogging files settings arguments = .ok (logging, made, ready) ∧
    logging.keep made now ready = .ok logged

/-- Without a log file, the files are as they were. -/
theorem eq_of_readsFrom {logged : FileTree}
    (unlogged : settings.flag profile .fileLogging = false)
    (reads : ReadsFrom files settings arguments now logged) : logged = files := by
  obtain ⟨logging, made, ready, setUp, kept⟩ := reads
  unfold setUpLogging at setUp
  dsimp only at setUp
  -- With and without a console, no log file is set up.
  split at setUp
  all_goals
    obtain ⟨console, -, setUp⟩ := bind_eq_ok_iff.mp setUp
    simp only [unlogged] at setUp
    cases setUp
    cases kept
    rfl

/-- The exit code and what is printed. -/
def Outcome.shown (outcome : Outcome) : Nat × String := (outcome.code, outcome.output)

theorem setUpLogging_congr (paths : List Path) :
    setUpLogging files settings { arguments with paths := paths } =
      setUpLogging files settings arguments := by
  have level : levelName settings { arguments with paths := paths } =
    levelName settings arguments := rfl
  rw [setUpLogging, setUpLogging, level]

theorem shown_deliver (files files' : FileTree) (diagnostics diagnostics' : List Diagnostic)
    (produced : Option Script) : (deliver files diagnostics produced).map Outcome.shown =
      (deliver files' diagnostics' produced).map Outcome.shown := by
  cases produced with
  | none => rfl
  | some script =>
    rw [deliver, deliver]
    cases script.toJson.indented? <;> rfl

/-- What is printed is decided by the scripts that are collected, whatever is logged about them. -/
theorem runWith_shown_congr (named : paths ≠ []) (named' : paths' ≠ [])
    (same : ∀ logged, ReadsFrom files settings arguments now logged →
      (collect logged paths).result = (collect logged paths').result) :
    (runWith files settings { arguments with paths := paths } now).map Outcome.shown =
      (runWith files settings { arguments with paths := paths' } now).map Outcome.shown := by
  cases usable : checkSettings files arguments.settings with
  | error failure =>
    simp only [runWith, usable]
    cases failure <;> rfl
  | ok =>
    cases setUp : setUpLogging files settings arguments with
    | error failure => simp only [runWith, usable, setUpLogging_congr, setUp, bind, Except.bind]
    | ok prepared =>
      obtain ⟨logging, made, ready⟩ := prepared
      cases kept : logging.keep made now ready with
      | error failure =>
        simp only [runWith, usable, setUpLogging_congr, setUp, kept, bind, Except.bind]
      | ok logged =>
        have worked := result_work_congr settings arguments named named'
          (same logged ⟨logging, made, ready, setUp, kept⟩)
        -- The work may report other things about other paths, and all of it is kept.
        obtain ⟨later, kept'⟩ := Logging.exists_keep_again setUp kept
          (work logged settings { arguments with paths := paths }).events
        obtain ⟨later', kept''⟩ := Logging.exists_keep_again setUp kept
          (work logged settings { arguments with paths := paths' }).events
        have ran : runWith files settings { arguments with paths := paths } now = _ :=
          runWith_of_kept usable ((setUpLogging_congr paths).trans setUp) kept kept'
        have ran' : runWith files settings { arguments with paths := paths' } now = _ :=
          runWith_of_kept usable ((setUpLogging_congr paths').trans setUp) kept kept''
        rw [ran, ran', worked]
        cases (work logged settings { arguments with paths := paths' }).result with
        | error failure => rfl
        | ok produced => exact shown_deliver _ _ _ _ produced

/-! ## A directory stands for its script files -/

/--
In whatever order a directory is listed, it is interpreted as its script files in ascending order of
their names, up to the first one that fails; and a run prints the same when these are named in place
of the directory, unless that leaves nothing to be named. All this is so if the system lets each
entry be looked at. Otherwise there is no outcome but its refusal.
-/
theorem directory_stands_for_scripts (distinct : files.Distinct)
    (listed : files.list path = .ok entries) :
    (∀ files', files.Relisted files' →
      Script.interpretDirectory files' path = Script.interpretDirectory files path) ∧
    (∃! names, Script.Listing entries names) ∧
    ((∃ name ∈ entries.map Prod.fst, FileTree.isTooLong (path.child name) = true) →
      (Script.interpretDirectory files path).result = .error .system) ∧
    ((∀ name ∈ entries.map Prod.fst, FileTree.isTooLong (path.child name) = false) →
      ∀ names, Script.Listing entries names →
        (∀ scripts, (Script.interpretDirectory files path).result = .ok scripts ↔
          List.Forall₂ (Script.Interprets files path) names scripts) ∧
        (∀ failure, (Script.interpretDirectory files path).result = .error failure ↔
          ∃ before name after scripts, names = before ++ name :: after ∧
            List.Forall₂ (Script.Interprets files path) before scripts ∧
            (Script.interpretFile files (path.child name)).result = .error failure) ∧
        ∀ (initial : FileTree) (settings : SettingsStore) (arguments : Arguments) (now : Int)
          (argv argv' : List String) (before after : List Path),
          (∀ logged, ReadsFrom initial settings arguments now logged → logged = files) →
          Arguments.parse argv = .run { arguments with paths := before ++ path :: after } →
          Arguments.parse argv' =
            .run { arguments with paths := before ++ (names.map path.child ++ after) } →
          before ++ (names.map path.child ++ after) ≠ [] →
            (run initial settings argv now).map Outcome.shown =
              (run initial settings argv' now).map Outcome.shown) := by
  have once := FileTree.nodup_of_list distinct listed
  refine ⟨?_, ?_, Script.interpretDirectory_of_tooLong listed, ?_⟩
  · intro files' same
    exact (Script.interpretDirectory_relisted same distinct path).symm
  · exact ⟨_, Script.listing_scriptNames once,
      fun names listing => listing.unique (Script.listing_scriptNames once)⟩
  · intro granted names listing
    refine ⟨fun scripts => ?_, fun failure => ?_, ?_⟩
    · exact Script.interpretDirectory_eq_ok_iff listed granted once listing
    · exact Script.interpretDirectory_eq_error_iff listed granted once listing
    · intro initial settings arguments now argv argv' before after reads accepted accepted' named
      rw [run, run, accepted, accepted']
      refine runWith_shown_congr (by simp) named ?_
      intro logged reading
      rw [reads logged reading]
      exact result_collect_listing distinct listed granted listing before after

/-- Two scripts among other things, one of which is called like a script. -/
def mixed : FileTree where
  root := [
    ("b.megu", .file "\x7b\"remove\": [\"dirt\"]\x7d".toUTF8),
    ("x.ult", .directory []),
    ("note.txt", .file .empty),
    ("a.megu", .file "\x7b\"pools\": \x7b\"dirt\": \x7b\"type\": \"empty\"\x7d\x7d\x7d".toUTF8)]
  workingDirectory := .present []

theorem listing_mixed : Script.Listing mixed.root ["a.megu", "b.megu"] where
  ascending := by decide
  members name := by
    constructor
    · intro member
      simp only [List.mem_cons, List.not_mem_nil, or_false] at member
      rcases member with rfl | rfl
      · exact ⟨⟨_, .tail _ (.tail _ (.tail _ (.head _)))⟩, by decide⟩
      · exact ⟨⟨_, .head _⟩, by decide⟩
    · rintro ⟨⟨content, member⟩, script⟩
      simp only [mixed, List.mem_cons, Prod.mk.injEq, reduceCtorEq, and_false, List.not_mem_nil,
        or_false, false_or] at member
      rcases member with ⟨rfl, -⟩ | ⟨rfl, -⟩ | ⟨rfl, -⟩
      · simp
      · revert script
        decide
      · simp

theorem directory_stands_for_scripts_mixed :
    let path : Path := .ofText "."
    let relisted : FileTree := ⟨mixed.root.reverse, mixed.workingDirectory⟩
    mixed.Distinct ∧ mixed.list path = .ok mixed.root ∧ mixed.Relisted relisted ∧
      Script.interpretDirectory relisted path = Script.interpretDirectory mixed path ∧
      (∀ name ∈ mixed.root.map Prod.fst, FileTree.isTooLong (path.child name) = false) ∧
      Script.Listing mixed.root ["a.megu", "b.megu"] ∧
      (run mixed .empty ["."] 0).map Outcome.shown =
        (run mixed .empty ["a.megu", "b.megu"] 0).map Outcome.shown := by
  intro path relisted
  have once : (mixed.root.map Prod.fst).Nodup := by decide
  have distinct : mixed.Distinct := by
    refine FileTree.distinct_of_shallow once fun name below found => ?_
    rw [OrderedMap.lookup_eq_some_iff_mem once] at found
    have only : name = "x.ult" ∧ below = [] := by simpa [mixed] using found
    exact only.2
  have listed : mixed.list path = .ok mixed.root := rfl
  have same : mixed.Relisted relisted :=
    FileTree.relisted_of_perm once (List.reverse_perm mixed.root).symm
  have granted : ∀ name ∈ mixed.root.map Prod.fst,
      FileTree.isTooLong (path.child name) = false := by decide
  have listing := listing_mixed
  obtain ⟨stable, -, -, stands⟩ := directory_stands_for_scripts distinct listed
  obtain ⟨-, -, runs⟩ := stands granted _ listing
  refine ⟨distinct, listed, same, stable relisted same, granted, listing, ?_⟩
  exact runs mixed .empty .none 0 ["."] ["a.megu", "b.megu"] [] []
    (fun logged reads => eq_of_readsFrom rfl reads) rfl rfl (by simp)

/-! ## An entry that cannot be looked at -/

/-- A path that goes into the only directory and back again until it is almost too long. -/
def winding (name : String) : Path := ⟨.relative, (List.replicate 20 [name, ".."]).flatten⟩

def hollow (name : String) : FileTree := ⟨[(name, .directory [])], .present []⟩

section Winding

variable {name : String} (short : ¬ FileTree.maxNameBytes < name.utf8ByteSize) (plain : name ≠ "..")

theorem distinct_hollow (name : String) : (hollow name).Distinct := by
  have once : ((hollow name).root.map Prod.fst).Nodup := List.nodup_singleton name
  refine FileTree.distinct_of_shallow once fun other below found => ?_
  rw [OrderedMap.lookup_eq_some_iff_mem once] at found
  cases List.mem_singleton.mp found
  rfl

theorem listing_hollow (name : String) : Script.Listing (hollow name).root [] where
  ascending := .nil
  members other := by
    refine ⟨nofun, ?_⟩
    rintro ⟨⟨content, member⟩, -⟩
    cases List.mem_singleton.mp member

include short plain

theorem follow_winding (times : Nat) :
    (hollow name).follow [] (.directory (hollow name).root)
      (List.replicate times [name, ".."]).flatten = .found [] (.directory (hollow name).root) := by
  induction times with
  | zero => rfl
  | succ times ih =>
    have round : (hollow name).follow [] (.directory (hollow name).root) [name, ".."] =
        .found [] (.directory (hollow name).root) := by
      rw [FileTree.follow, if_neg plain, if_neg short]
      simp [hollow, FileTree.follow, FileTree.entryAt?, FileTree.descend]
    rw [List.replicate_succ, List.flatten_cons, FileTree.follow_append, round]
    exact ih

theorem list_winding (nameable : (winding name).isNameable = true)
    (fits : FileTree.isTooLong (winding name) = false) :
    (hollow name).list (winding name) = .ok (hollow name).root := by
  have begins : FileTree.origin? (hollow name).workingDirectory (winding name) =
    some ([], (winding name).parts) := rfl
  have followed : (hollow name).followFrom [] (winding name).parts =
      .found [] (.directory (hollow name).root) := by
    rw [FileTree.followFrom, FileTree.entryAt?_nil]
    exact follow_winding short plain 20
  rw [FileTree.list, FileTree.locate_eq nameable fits, begins]
  simp only [followed]

end Winding

/-- There are no scripts to be interpreted, but that is not what comes out. -/
theorem interpretDirectory_passes_refusal_of_entry :
    ∃ name : String, name = String.ofList (List.replicate 200 'n') ∧ (hollow name).Distinct ∧
      (hollow name).list (winding name) = .ok (hollow name).root ∧
      Script.Listing (hollow name).root [] ∧
      (Script.interpretDirectory (hollow name) (winding name)).result = .error .system := by
  have nameable : (winding (String.ofList (List.replicate 200 'n'))).isNameable = true := by
    decide +kernel
  have fits : FileTree.isTooLong (winding (String.ofList (List.replicate 200 'n'))) = false := by
    decide +kernel
  have listed := list_winding (by decide +kernel) (by decide +kernel) nameable fits
  have long : FileTree.isTooLong ((winding (String.ofList (List.replicate 200 'n'))).child
      (String.ofList (List.replicate 200 'n'))) = true := by decide +kernel
  -- How the name is spelled out plays no part from here on.
  generalize String.ofList (List.replicate 200 'n') = name at listed long
  have refused := Script.interpretDirectory_of_tooLong listed
    ⟨name, List.mem_singleton_self name, long⟩
  exact ⟨name, rfl, distinct_hollow name, listed, listing_hollow name, refused⟩

end CommandLine

end LootScript
