import LootScript.Proofs.Extension.Containment
import LootScript.Proofs.Script.Judgement
import LootScript.Script.File

/-!
# A base script is a script file

The file that a directory gives for an identifier can be loaded as a script file, and the identifier
can be resolved. Both come to the same script, or find the same fault in it. Where there is no
script to judge, since the content is no JSON text or has another shape, both fail in words of their
own: loading has the path, and resolving the identifier.
-/
namespace LootScript

namespace Failure

/-- There is no base script to judge: nothing is known under its name, or it cannot be read. -/
def isWithoutBase : Failure → Bool
  | .script .unknownExtension _ | .scriptBy .unknownExtension _ _
  | .script .unreadableExtension _ | .scriptBy .unreadableExtension _ _ => true
  | _ => false

theorem isWithoutBase_of_isJudgement {failure : Failure} (judged : failure.isJudgement = true) :
    failure.isWithoutBase = false := by
  unfold isJudgement at judged
  split at judged <;> first | rfl | cases judged

end Failure

variable {files : FileTree} {root path : Path} {id : Identifier} {content : ByteArray}
  {loaded resolved : Except Failure Script} {script : Script} {cause failure : Failure}

/-! ## One content -/

theorem FileTree.read_of_isFile (isFile : files.isFile path = .ok true) :
    ∃ content, files.read path = .ok content := by
  unfold FileTree.isFile at isFile
  split at isFile
  · next place content located => exact ⟨content, by rw [FileTree.read, located]⟩
  all_goals cases isFile

theorem ScriptDirectory.read_of_pathFor (found : pathFor files root id = .ok (some path)) :
    ∃ content, files.read path = .ok content := by
  unfold pathFor at found
  split at found
  · cases found
  · split at found
    · cases found
    · split at found
      · obtain ⟨earlier, later, -, -, isFile⟩ := exists_split_of_firstFile? found
        exact FileTree.read_of_isFile isFile
      · cases found

theorem Script.result_loadFile (stored : files.read path = .ok content) :
    (loadFile files path).result = ofContent path content := by
  simp only [loadFile, Traced.result_bind, Traced.result_ofExcept, stored]
  -- What is reported afterwards changes nothing.
  change (ofContent path content >>= fun script => .ok script) = ofContent path content
  cases ofContent path content <;> rfl

theorem Store.lookup_directory (found : ScriptDirectory.pathFor files root id = .ok (some path))
    (stored : files.read path = .ok content) :
    (Store.directory root).lookup files id = match Json.decode? content with
      | none => .error (.scriptBy .unreadableExtension (.str id.text) .notJson)
      | some definition => .ok (present (some definition)) := by
  rw [lookup, ScriptDirectory.lookup]
  simp only [found, stored]
  cases Json.decode? content <;> rfl

/-! ## The two outcomes -/

/-- What loading the file at a path comes to, beside what resolving its identifier comes to. -/
inductive LoadedAndResolved (path : Path) : Except Failure Script → Except Failure Script → Prop
  | script (script : Script) : LoadedAndResolved path (.ok script) (.ok script)
  /-- The same fault, which loading reports with the path. -/
  | fault {cause : Failure} : cause.isJudgement = true →
    LoadedAndResolved path (.error (.read .content path cause)) (.error cause)
  | form {cause failure : Failure} : failure.isScriptFault = true → failure.isWithoutBase = true →
    LoadedAndResolved path (.error (.read .form path cause)) (.error failure)

theorem loadedAndResolved_of_definition {source : Source} {definition : Json}
    (decoded : Json.decode? content = some definition)
    (given : source.lookup id = .ok (some definition)) (path : Path) (shown : String) :
    LoadedAndResolved path (Script.ofContent path content) (source.resolve id shown) := by
  simp only [Script.ofContent, decoded, Source.resolve, given]
  cases formed : ScriptShape.ofJson definition with
  | error cause => exact .form rfl rfl
  | ok shape =>
    cases judged : Script.ofShape shape with
    | error cause =>
      simp only [judged]
      exact .fault (Script.isJudgement_of_ofShape judged)
    | ok script =>
      simp only [judged]
      exact .script script

theorem loadedAndResolved (found : ScriptDirectory.pathFor files root id = .ok (some path))
    (shown : String) :
    LoadedAndResolved path (Script.loadFile files path).result
      (((Store.directory root).source files).resolve id shown) := by
  obtain ⟨content, stored⟩ := ScriptDirectory.read_of_pathFor found
  have looked := Store.lookup_directory found stored
  rw [Script.result_loadFile stored]
  cases decoded : Json.decode? content with
  | none =>
    rw [decoded] at looked
    have given : ((Store.directory root).source files).lookup id = _ := looked
    simp only [Script.ofContent, decoded, Source.resolve, given]
    exact .form rfl rfl
  | some definition =>
    rw [decoded] at looked
    by_cases null : definition = .null
    · -- Null is no definition to the store, and it does not have the shape of a script.
      subst null
      have given : ((Store.directory root).source files).lookup id = .ok none := looked
      simp only [Script.ofContent, decoded, Source.resolve, given]
      exact .form rfl rfl
    · have kept : Store.present (some definition) = some definition := by
        cases definition with
        | null => exact absurd rfl null
        | _ => rfl
      simp only [kept] at looked
      exact loadedAndResolved_of_definition decoded looked path shown

namespace LoadedAndResolved

variable (outcomes : LoadedAndResolved path loaded resolved)

include outcomes

theorem script_iff : loaded = .ok script ↔ resolved = .ok script := by
  cases outcomes <;> simp

theorem content_iff : loaded = .error (.read .content path cause) ↔
    resolved = .error cause ∧ cause.isWithoutBase = false := by
  cases outcomes with
  | script script => simp
  | fault judged =>
    simp only [Except.error.injEq, Failure.read.injEq, true_and]
    refine ⟨?_, And.left⟩
    rintro rfl
    exact ⟨rfl, Failure.isWithoutBase_of_isJudgement judged⟩
  | form fault without =>
    simp only [Except.error.injEq, Failure.read.injEq, reduceCtorEq, false_and, false_iff, not_and]
    rintro rfl
    rw [without]
    exact Bool.noConfusion

theorem form_imp (failed : loaded = .error (.read .form path cause)) :
    ∃ failure, resolved = .error failure ∧ failure.isWithoutBase = true := by
  cases outcomes with
  | script script => cases failed
  | fault judged => cases failed
  | form fault without => exact ⟨_, rfl, without⟩

theorem exists_cause (failed : loaded = .error failure) : ∃ cause,
    failure = .read .content path cause ∨ failure = .read .form path cause := by
  cases outcomes with
  | script script => cases failed
  | fault judged => cases failed; exact ⟨_, .inl rfl⟩
  | form fault without => cases failed; exact ⟨_, .inr rfl⟩

theorem isScriptFault (failed : resolved = .error failure) : failure.isScriptFault = true := by
  cases outcomes with
  | script script => cases failed
  | fault judged => cases failed; exact Failure.isScriptFault_of_isJudgement judged
  | form fault without => cases failed; exact fault

end LoadedAndResolved

/--
Whatever a file holds that a directory gives for an identifier, loading it gives a script exactly if
the identifier resolves to that script, and finds a fault in its content exactly if resolving fails
with that fault and not for want of a base script. A content that is no JSON text or has another
shape resolves to nothing either. Loading fails in no other way, and resolving only with faults of
scripts.
-/
theorem loadFile_agrees (found : ScriptDirectory.pathFor files root id = .ok (some path))
    (shown : String) :
    let loaded := (Script.loadFile files path).result
    let resolved := ((Store.directory root).source files).resolve id shown
    (∀ script, loaded = .ok script ↔ resolved = .ok script) ∧
    (∀ cause, loaded = .error (.read .content path cause) ↔
      resolved = .error cause ∧ cause.isWithoutBase = false) ∧
    (∀ cause, loaded = .error (.read .form path cause) →
      ∃ failure, resolved = .error failure ∧ failure.isWithoutBase = true) ∧
    (∀ failure, loaded = .error failure → ∃ cause,
      failure = .read .content path cause ∨ failure = .read .form path cause) ∧
    ∀ failure, resolved = .error failure → failure.isScriptFault = true := by
  intro loaded resolved
  have outcomes := loadedAndResolved found shown
  refine ⟨fun _ => outcomes.script_iff, fun _ => outcomes.content_iff, ?_, ?_, ?_⟩
  · exact fun _ => outcomes.form_imp
  · exact fun _ => outcomes.exists_cause
  · exact fun _ => outcomes.isScriptFault

/-- A script that is found and extends something that is no identifier. -/
theorem loadFile_agrees_on_fault :
    let files : FileTree := ⟨[("base", .directory [("minecraft", .directory [
      ("a.megu", .file "\x7b\"extend\": \"a:b:c\"\x7d".toUTF8)])])], .present []⟩
    let root : Path := .ofText "base"
    let id : Identifier := ⟨"minecraft", "a"⟩
    let path : Path := .ofPlace ["base", "minecraft", "a.megu"]
    let fault : Failure :=
      .scriptBy .extension (.str "a:b:c") (.script .identifierColons (.str "a:b:c"))
    ScriptDirectory.pathFor files root id = .ok (some path) ∧
      (Script.loadFile files path).result = .error (.read .content path fault) ∧
      ((Store.directory root).source files).resolve id "a" = .error fault := by
  intro files root id path fault
  have found : ScriptDirectory.pathFor files root id = .ok (some path) := by decide +kernel
  have loaded : (Script.loadFile files path).result = .error (.read .content path fault) := by
    decide +kernel
  exact ⟨found, loaded, (((loadFile_agrees found "a").2.1 fault).mp loaded).1⟩

end LootScript
