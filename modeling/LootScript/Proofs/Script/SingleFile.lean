import LootScript.Proofs.FileTree
import LootScript.Proofs.Json.RoundTrip
import LootScript.Proofs.Script.Inheritance
import LootScript.Proofs.Script.Precedence
import LootScript.Proofs.Script.RoundTrip
import LootScript.Script.Assembly

/-!
# A script on its own

A table is made of a single script in two ways: its file is compiled and the removals are applied to
what comes out, or it is combined as the only script of a list. The second way lays the compiled
script over an empty one before the removals, and numbers the faults; apart from the number nothing
tells the two ways apart.
-/
namespace LootScript

namespace Script

variable {files : FileTree} {path : Path} {content : ByteArray} {source : Source}
  {script result : Script} {store : Store} {failure : Failure}

/-! ## Reading -/

theorem ofContent_of_decode? {value : Json} (decoded : Json.decode? content = some value)
    (judged : ofJson value = .ok script) (path : Path) : ofContent path content = .ok script := by
  obtain ⟨shape, formed, judged⟩ := bind_eq_ok_iff.mp judged
  simp only [ofContent, decoded, formed, judged]
  rfl

theorem interpretFile_of_content (stored : files.read path = .ok content)
    (judged : ofContent path content = .ok script) :
    (interpretFile files path).result = .ok script := by
  obtain ⟨file, isThere⟩ := FileTree.isDirectory_of_read stored
  have loaded : (loadFile files path).result = .ok script := by
    simp only [loadFile, Traced.result_bind, Traced.result_ofExcept, stored]
    exact bind_eq_ok_iff.mpr ⟨content, rfl, bind_eq_ok_iff.mpr ⟨script, judged, rfl⟩⟩
  have onward : (interpretFile files path).result =
      (loadFile files path).result.mapError (unreadableAt path) := by
    rw [interpretFile, isThere, file]
    rfl
  rw [onward, loaded]
  rfl

/-! ## The two ways -/

theorem result_compileFile :
    (compileFile files store path).result =
      (interpretFile files path).result >>= fun script =>
        (script.compile (store.source files)).map applyRemovals := by
  simp only [compileFile, compileOver, withoutRemoved, Traced.result_bind]
  rfl

/-- Combining one script is compiling it, with the number of the script for a fault. -/
theorem combine_singleton (source : Source) (script : Script) :
    combine [script] source =
      ((script.compile source).map applyRemovals).mapError (atPosition 0) := by
  rw [combine, compileAll]
  cases compiled : script.compile source with
  | error failure => rfl
  | ok result =>
    have plain := base_of_compile compiled
    simp [compileAll, Except.map, Except.mapError, overlayAll_singleton,
      withoutBase_of_base_eq_none plain]

/-- What a script comes to on its own, beside what it comes to as the only script of a list. -/
inductive SameOutcome (source : Source) (script : Script) :
    Except Failure Script → Except Failure Script → Prop
  | table {result : Script} : result.base = none →
    SameOutcome source script (.ok result) (.ok result)
  | fault {fault : Failure} : fault.isScriptFault = true →
    SameOutcome source script (.error fault) (.error (.combination 0 fault))
  /-- A look-up on the walk fails for no fault of a script, so its failure comes out as it is. -/
  | refusal {failure : Failure} {id : Identifier} : failure.isScriptFault = false →
    id ∈ (source.lineage script).lookedUp → source.lookup id = .error failure →
    SameOutcome source script (.error failure) (.error failure)

theorem sameOutcome_compile (source : Source) (script : Script) :
    SameOutcome source script ((script.compile source).map applyRemovals)
      (combine [script] source) := by
  rw [combine_singleton]
  cases compiled : script.compile source with
  | ok result => exact .table ((base_applyRemovals result).trans (base_of_compile compiled))
  | error failure =>
    simp only [Except.map, Except.mapError, atPosition]
    -- The list numbers faults of scripts and nothing else.
    cases fault : failure.isScriptFault with
    | true => exact .fault fault
    | false =>
      obtain ⟨id, asked, -, refused⟩ := (lookup_of_compile compiled).resolve_left (by simp [fault])
      exact .refusal fault asked refused

/--
A file that is not read fails alike on its own. A file that is read has one outcome on its own and
as the only script of a list: the same table, or the same fault, which the list numbers. Only where
a store cannot be searched for a base script that is asked for does the failure come without a
number.
-/
theorem compileFile_agrees (files : FileTree) (store : Store) (path : Path) :
    (∀ failure, (interpretFile files path).result = .error failure →
      (compileFile files store path).result = .error failure) ∧
    ∀ script, (interpretFile files path).result = .ok script →
      SameOutcome (store.source files) script (compileFile files store path).result
        (assemble files store [script]).result := by
  constructor
  · intro failure failed
    rw [result_compileFile, failed]
    rfl
  · intro script read
    rw [result_compileFile, read, result_assemble]
    exact sameOutcome_compile _ script

/-- A file that extends a script, adds a pool to those that it inherits, and removes one of them. -/
theorem compileFile_agrees_on_base :
    let files : FileTree := ⟨[("a.megu", .file ("\x7b\"extend\": \"base\", \"pools\": " ++
      "\x7b\"c\": \x7b\"type\": \"empty\"\x7d\x7d, \"remove\": [\"b\"]\x7d").toUTF8)], .present []⟩
    let store : Store :=
      .registry (.ofList [(⟨"minecraft", "base"⟩, (sketch ["a", "b"] []).toJson)])
    let path : Path := .ofText "a.megu"
    let toBase : Reference := ⟨"base", ⟨"minecraft", "base"⟩, rfl⟩
    let script : Script := { sketch ["c"] ["b"] with base := some toBase }
    (interpretFile files path).result = .ok script ∧
      (compileFile files store path).result = .ok (sketch ["a", "c"] ["b"]) ∧
      SameOutcome (store.source files) script (compileFile files store path).result
        (assemble files store [script]).result := by
  intro files store path toBase script
  have read : (interpretFile files path).result = .ok script := by decide +kernel
  have found : (store.source files).resolveText (.str "base") = .ok (sketch ["a", "b"] []) := by
    decide +kernel
  have climbs : (store.source files).Climbs script [⟨toBase, sketch ["a", "b"] []⟩]
      (sketch ["a", "b"] []) := .up rfl found (.here _)
  have compiled : script.compile (store.source files) = .ok (sketch ["a", "b", "c"] ["b"]) :=
    (compile_of_climbs climbs rfl (List.nodup_singleton _)).trans rfl
  refine ⟨read, ?_, (compileFile_agrees files store path).2 script read⟩
  rw [result_compileFile, read]
  exact congrArg (Except.map applyRemovals) compiled

/-! ## A store that cannot be searched -/

/-- A directory for base scripts, beside the file of a script. -/
def besideBases (script : Script) : FileTree where
  root := [("minecraft", .directory []), ("a.megu", .file script.toJson.compact.toUTF8)]
  workingDirectory := .present []

theorem interpretFile_besideBases (reference : Reference) :
    let script : Script := { empty with base := some reference }
    (interpretFile (besideBases script) (.ofText "a.megu")).result = .ok script := by
  intro script
  have formed : script.WellFormed := ⟨List.forall_mem_nil _, List.forall_mem_nil _⟩
  have distinct : script.toJson.Distinct := by
    simp [script, toJson, empty, OrderedMap.empty, Json.Distinct, Json.DistinctFields]
  have decoded := Json.decode?_compact distinct rfl
  have path : Path.ofText "a.megu" = ⟨.relative, ["a.megu"]⟩ := by decide
  have stored : (besideBases script).read (.ofText "a.megu") =
      .ok script.toJson.compact.toUTF8 := by
    rw [path]
    rfl
  exact interpretFile_of_content stored
    (ofContent_of_decode? decoded (ofJson_toJson_of_wellFormed formed) _)

/-- Whether the script is alone or in a list, the refusal of the system comes out as it is. -/
theorem compileFile_passes_refusal :
    ∃ reference : Reference, reference.raw = String.ofList (List.replicate 256 'n') ∧
      let script : Script := { empty with base := some reference }
      let files := besideBases script
      let store : Store := .directory (.ofPlace [])
      let path : Path := .ofText "a.megu"
      (interpretFile files path).result = .ok script ∧
        (compileFile files store path).result = .error .system ∧
        (assemble files store [script]).result = .error .system ∧
        Failure.isScriptFault .system = false ∧ Failure.isCombination .system = false := by
  have overlong := FileTree.overlong_replicate
  refine ⟨⟨_, _, parse_overlong overlong⟩, rfl, ?_⟩
  intro script files store path
  have read : (interpretFile files path).result = .ok script := interpretFile_besideBases _
  have failed : script.compile (store.source files) = .error .system :=
    compile_overlong overlong rfl rfl rfl
  refine ⟨read, ?_, ?_, rfl, rfl⟩
  · rw [result_compileFile, read]
    exact congrArg (Except.map applyRemovals) failed
  · rw [result_assemble, combine_singleton, failed]
    rfl

end Script

end LootScript
