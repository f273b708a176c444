import LootScript.Proofs.Extension.Loading
import LootScript.Proofs.Script.Dependence
import LootScript.Proofs.Script.SingleFile

/-!
# What comes out of reading and combining

Every layer makes failures of its own of what goes wrong below it, so that whoever asks for a
script, or for a table, has to know only few kinds of failures. There are two gaps. A path is looked
at before it is read, and the system may refuse that; and the base scripts that are asked for are
searched for before they are read, and that may be refused as well. Such a refusal comes out as it
is.
-/
namespace LootScript

namespace Script

variable {files : FileTree} {path : Path} {paths : List Path} {failure : Failure}

/-! ## Reading -/

/-- A content is no JSON, or does not have the shape of a script, or what it says is wrong. -/
theorem ofContent_failures {content : ByteArray}
    (failed : ofContent path content = .error failure) :
    failure = .read .form path .notJson ∨ ∃ value, Json.decode? content = some value ∧
      ((∃ cause, ScriptShape.ofJson value = .error cause ∧ failure = .read .form path cause) ∨
        ∃ shape cause, ScriptShape.ofJson value = .ok shape ∧ ofShape shape = .error cause ∧
          failure = .read .content path cause) := by
  unfold ofContent at failed
  split at failed
  · cases failed
    exact .inl rfl
  · next value decoded =>
    refine .inr ⟨value, decoded, ?_⟩
    split at failed
    · next cause misshapen =>
      cases failed
      exact .inl ⟨cause, misshapen, rfl⟩
    · next shape formed =>
      cases judged : ofShape shape with
      | ok script => rw [judged] at failed; cases failed
      | error cause =>
        rw [judged] at failed
        cases failed
        exact .inr ⟨shape, cause, formed, judged, rfl⟩

/-- A file is not loaded because the system refuses, or for what its content is. -/
theorem loadFile_failures (nameable : path.isNameable = true)
    (failed : (loadFile files path).result = .error failure) :
    failure = .read .access path .system ∨
      ∃ content, files.read path = .ok content ∧ ofContent path content = .error failure := by
  cases stored : files.read path with
  | ok content =>
    rw [result_loadFile stored] at failed
    exact .inr ⟨content, rfl, failed⟩
  | error cause =>
    have refused := FileTree.eq_system_of_read nameable stored
    simp only [loadFile, Traced.result_bind, Traced.result_ofExcept, stored, refused] at failed
    cases failed
    exact .inl rfl

/-- Loading fails with nothing but failures to read. -/
theorem exists_read_of_loadFile (nameable : path.isNameable = true)
    (failed : (loadFile files path).result = .error failure) :
    ∃ fault cause, failure = .read fault path cause := by
  rcases loadFile_failures nameable failed with rfl | ⟨content, -, misread⟩
  · exact ⟨_, _, rfl⟩
  · rcases ofContent_failures misread with rfl | ⟨_, -, ⟨_, -, rfl⟩ | ⟨_, _, -, -, rfl⟩⟩
    all_goals exact ⟨_, _, rfl⟩

/-- How reading a file that was asked for can fail. -/
theorem interpretFile_failures (failed : (interpretFile files path).result = .error failure) :
    failure = .system ∧ files.locate path = .refused ∨ failure = .missing path.text ∨
      failure = .notAFile path.text ∨
      ∃ cause, failure = .unreadableScript path cause ∧ path.isNameable = true ∧
        (loadFile files path).result = .error cause := by
  simp only [interpretFile, Traced.result_bind, Traced.result_ofExcept, bind_eq_error_iff] at failed
  rcases failed with refused | ⟨isThere, there, failed⟩
  · exact .inl (FileTree.exists?_eq_error_iff.mp refused)
  · cases isThere with
    | false =>
      cases failed
      exact .inr (.inl rfl)
    | true =>
      simp only [Bool.not_true, Bool.false_eq_true, if_false, Traced.result_bind,
        Traced.result_ofExcept, bind_eq_error_iff] at failed
      rcases failed with refused | ⟨isDirectory, -, failed⟩
      · exact .inl (FileTree.isDirectory_eq_error_iff.mp refused)
      · split at failed
        · cases failed
          exact .inr (.inr (.inl rfl))
        · have nameable := FileTree.isNameable_of_exists? there
          simp only [Traced.result_bind, Traced.result_report, Traced.result_mapFailure] at failed
          cases loaded : (loadFile files path).result with
          | ok script => rw [loaded] at failed; cases failed
          | error cause =>
            -- Only failures to read are wrapped, but loading fails with no other.
            obtain ⟨fault, inner, rfl⟩ := exists_read_of_loadFile nameable loaded
            rw [loaded] at failed
            cases failed
            exact .inr (.inr (.inr ⟨_, rfl, nameable, rfl⟩))

theorem isInterpretation_of_interpretFile
    (failed : (interpretFile files path).result = .error failure) :
    failure.isInterpretation = true ∨ failure = .system ∧ files.locate path = .refused := by
  rcases interpretFile_failures failed with refused | rfl | rfl | ⟨cause, rfl, -⟩
  · exact .inr refused
  all_goals exact .inl rfl

theorem interpretFile_of_refused (refused : files.locate path = .refused) :
    (interpretFile files path).result = .error .system := by
  have unanswered := FileTree.exists?_eq_error_iff.mpr ⟨rfl, refused⟩
  simp only [interpretFile, Traced.result_bind, Traced.result_ofExcept, unanswered]
  rfl

theorem isInterpretation_of_interpretFiles
    (failed : (interpretFiles files paths).result = .error failure) :
    failure.isInterpretation = true ∨
      failure = .system ∧ ∃ path ∈ paths, files.locate path = .refused := by
  induction paths with
  | nil => cases failed
  | cons path rest ih =>
    simp only [interpretFiles, Traced.result_bind, bind_eq_error_iff] at failed
    rcases failed with first | ⟨script, _, later | ⟨scripts, _, done⟩⟩
    · exact (isInterpretation_of_interpretFile first).imp_right fun ⟨bare, refused⟩ =>
        ⟨bare, path, List.mem_cons_self, refused⟩
    · exact (ih later).imp_right fun ⟨bare, other, member, refused⟩ =>
        ⟨bare, other, List.mem_cons_of_mem _ member, refused⟩
    · cases done

theorem mem_of_mem_scriptNames {names : List String} {name : String}
    (member : name ∈ scriptNames names) : name ∈ names :=
  List.mem_of_mem_filter (List.mem_mergeSort.mp member)

theorem isInterpretation_of_interpretDirectory
    (failed : (interpretDirectory files path).result = .error failure) :
    failure.isInterpretation = true ∨ failure = .system ∧ files.Unlistable path := by
  simp only [interpretDirectory, Traced.result_bind, Traced.result_ofExcept,
    bind_eq_error_iff] at failed
  rcases failed with refused | ⟨isThere, there, failed⟩
  · obtain ⟨bare, refused⟩ := FileTree.exists?_eq_error_iff.mp refused
    exact .inr ⟨bare, .refused refused⟩
  · cases isThere with
    | false => cases failed; exact .inl rfl
    | true =>
      simp only [Bool.not_true, Bool.false_eq_true, if_false, Traced.result_bind,
        Traced.result_ofExcept, bind_eq_error_iff] at failed
      rcases failed with refused | ⟨names, listed, reported | ⟨_, _, failed⟩⟩
      · exact .inr (FileTree.unlistable_of_fileNames there refused)
      · cases reported
      · refine (isInterpretation_of_interpretFiles failed).imp_right ?_
        rintro ⟨bare, child, member, refused⟩
        -- The path that is refused is that of an entry, which was listed before.
        obtain ⟨name, named, rfl⟩ := List.mem_map.mp member
        obtain ⟨entries, found, inside⟩ :=
          FileTree.mem_of_fileNames listed (mem_of_mem_scriptNames named)
        exact ⟨bare, .entry found inside (.inr refused)⟩

theorem interpretDirectory_of_file {place : List String} {content : ByteArray}
    (file : files.locate path = .found place (.file content)) :
    (interpretDirectory files path).result = .error .system := by
  have isThere : files.exists? path = .ok true := by rw [FileTree.exists?, file]
  have reached : files.locate path ≠ .unnameable := by simp [file]
  have unlisted : files.fileNames path = .error .system := by
    rw [FileTree.fileNames, FileTree.list, file, FileTree.refusal,
      if_pos (FileTree.isNameable_of_locate reached)]
    rfl
  simp only [interpretDirectory, Traced.result_bind, Traced.result_ofExcept, isThere]
  change (Traced.ofExcept (files.fileNames path) >>= _).result = _
  rw [Traced.result_bind, Traced.result_ofExcept, unlisted]
  rfl

end Script

/-! ## Compiling and combining -/

/--
The search for a base script that a job asks for is refused, in some directory of the store, and the
store has nothing else to tell about that script.
-/
def Job.Unsearched (files : FileTree) (store : Store) (job : Job) (failure : Failure) : Prop :=
  failure.isRefusal = true ∧ ∃ id ∈ job.lookedUp (store.source files),
    store.lookup files id = .error failure ∧
      ∃ root ∈ store.roots, ScriptDirectory.pathFor files root id = .error failure

namespace Job

variable {files : FileTree} {store : Store} {job : Job} {failure : Failure}

/-- A job finds a fault in a script, or a search that it needs is refused. -/
theorem isFault_or_unsearched (failed : job.outcome (store.source files) = .error failure) :
    job.isFault failure = true ∨ job.Unsearched files store failure := by
  rcases lookup_of_outcome failed with fault | ⟨faultless, id, asked, looked⟩
  · exact .inl fault
  · rcases Store.pathFor_of_lookup store looked with ⟨cause, rfl, -⟩ | ⟨root, member, searched⟩
    · -- A file that is found but not read is a fault of the script that asks for it.
      cases faultless
    · have refusal := ScriptDirectory.isRefusal_of_pathFor searched
      exact .inr ⟨refusal, id, asked, looked, root, member, searched⟩

theorem outcome_of_unsearched (unsearched : job.Unsearched files store failure) :
    job.outcome (store.source files) = .error failure := by
  obtain ⟨refusal, id, asked, looked, -⟩ := unsearched
  exact outcome_of_lookup asked looked (Failure.isScriptFault_of_isRefusal refusal)

end Job

namespace Script

variable {files : FileTree} {path : Path} {failure : Failure} {store : Store} {script : Script}

theorem isFault_of_compileFile (failed : (compileFile files store path).result = .error failure) :
    failure.isInterpretation = true ∨ failure.isScriptFault = true ∨
      (failure = .system ∧ files.locate path = .refused) ∨
      ∃ script, (interpretFile files path).result = .ok script ∧
        (Job.compile script).Unsearched files store failure := by
  rw [result_compileFile, bind_eq_error_iff] at failed
  rcases failed with unread | ⟨script, read, uncompiled⟩
  · rcases isInterpretation_of_interpretFile unread with interpretation | refused
    · exact .inl interpretation
    · exact .inr (.inr (.inl refused))
  · have failed : (Job.compile script).outcome (store.source files) = .error failure :=
      map_eq_error_iff.mp uncompiled
    rcases Job.isFault_or_unsearched failed with fault | unsearched
    · exact .inr (.inl fault)
    · exact .inr (.inr (.inr ⟨script, read, unsearched⟩))

theorem compileFile_of_unsearched (read : (interpretFile files path).result = .ok script)
    (unsearched : (Job.compile script).Unsearched files store failure) :
    (compileFile files store path).result = .error failure := by
  have failed : script.compile (store.source files) = .error failure :=
    Job.outcome_of_unsearched unsearched
  rw [result_compileFile, read]
  exact map_eq_error_iff.mpr failed

/-! ## The boundary -/

/--
A file that is asked for is interpreted, or that is what the failure is about, unless the system
refuses to look at the path itself; then the refusal comes out. A directory is interpreted in the
same way, with one more gap: what exists but cannot be listed, such as a file, is not reported as
anything. Compiling adds faults of scripts, and combining numbers them. Neither makes anything of a
refusal to search a directory for one of the base scripts that it asks for, and nothing else comes
out of either.
-/
theorem failures_within_boundary (files : FileTree) (store : Store) (path : Path)
    (scripts : List Script) :
    (∀ failure, (interpretFile files path).result = .error failure →
      failure.isInterpretation = true ∨ failure = .system ∧ files.locate path = .refused) ∧
    (∀ failure, (interpretDirectory files path).result = .error failure →
      failure.isInterpretation = true ∨ failure = .system ∧ files.Unlistable path) ∧
    (∀ failure, (compileFile files store path).result = .error failure →
      failure.isInterpretation = true ∨ failure.isScriptFault = true ∨
        (failure = .system ∧ files.locate path = .refused) ∨
        ∃ script, (interpretFile files path).result = .ok script ∧
          (Job.compile script).Unsearched files store failure) ∧
    (∀ failure, (assemble files store scripts).result = .error failure →
      failure.isCombination = true ∨ (Job.combine scripts).Unsearched files store failure) ∧
    (files.locate path = .refused → (interpretFile files path).result = .error .system) ∧
    (∀ place content, files.locate path = .found place (.file content) →
      (interpretDirectory files path).result = .error .system) ∧
    (∀ script failure, (interpretFile files path).result = .ok script →
      (Job.compile script).Unsearched files store failure →
      (compileFile files store path).result = .error failure) ∧
    (∀ failure, (Job.combine scripts).Unsearched files store failure →
      (assemble files store scripts).result = .error failure) := by
  have assembled : (assemble files store scripts).result =
      (Job.combine scripts).outcome (store.source files) := result_assemble files store scripts
  refine ⟨fun _ => isInterpretation_of_interpretFile,
    fun _ => isInterpretation_of_interpretDirectory, fun _ => isFault_of_compileFile, ?_,
    interpretFile_of_refused, fun _ _ => interpretDirectory_of_file,
    fun _ _ => compileFile_of_unsearched, ?_⟩
  · intro failure failed
    rw [assembled] at failed
    exact Job.isFault_or_unsearched failed
  · intro failure unsearched
    rw [assembled]
    exact Job.outcome_of_unsearched unsearched

/-- A script that is no JSON, in a directory, and a script whose base is not in the store. -/
theorem failures_within_boundary_of_faults :
    let files : FileTree := ⟨[("s", .directory [("a.megu", .file "[".toUTF8)])], .present []⟩
    let store : Store := .registry .empty
    let path : Path := .ofText "s"
    let child : Path := .ofText "s/a.megu"
    let unread : Failure := .unreadableScript child (.read .form child .notJson)
    let script : Script := { empty with base := some ⟨"b", ⟨"minecraft", "b"⟩, rfl⟩ }
    let unknown : Failure := .combination 0 (.script .unknownExtension (.str "b"))
    (interpretDirectory files path).result = .error unread ∧
      (unread.isInterpretation = true ∨ unread = .system ∧ files.Unlistable path) ∧
      (assemble files store [script]).result = .error unknown ∧
      (unknown.isCombination = true ∨ (Job.combine [script]).Unsearched files store unknown) := by
  intro files store path child unread script unknown
  have failed : (interpretDirectory files path).result = .error unread := by decide +kernel
  have missed : script.compile (store.source files) =
      .error (.script .unknownExtension (.str "b")) := by
    have unresolved : (store.source files).resolveText (.str "b") =
        .error (.script .unknownExtension (.str "b")) := by decide +kernel
    rw [compile, Source.lineage, Source.climb_of_error rfl List.not_mem_nil unresolved]
    rfl
  have numbered : (assemble files store [script]).result = .error unknown := by
    rw [result_assemble, combine_singleton, missed]
    rfl
  have bounds := failures_within_boundary files store path [script]
  exact ⟨failed, bounds.2.1 unread failed, numbered, bounds.2.2.2.1 unknown numbered⟩

/-- A script file is no directory, but it is not reported as that, or as anything else. -/
theorem interpretDirectory_passes_refusal :
    let files : FileTree := ⟨[("a.megu", .file "\x7b\x7d".toUTF8)], .present []⟩
    (interpretDirectory files (.ofText "a.megu")).result = .error .system ∧
      Failure.isInterpretation .system = false := by
  decide +kernel

end Script

end LootScript
