import LootScript.Proofs.CommandLine.Production
import LootScript.Proofs.Pack
import LootScript.Proofs.Script.Boundary

/-!
# Failures that are reported

Whatever stops the production of a table is reported as a failure of the run, with one exception:
where the system refuses to look at a path, the refusal itself comes through.
-/
namespace LootScript

variable {files : FileTree} {path root : Path} {paths : List Path} {failure : Failure}
  {id : Identifier} {source : Source} {script : Script} {store : Store}

/-! ## Compiling -/

theorem Identifier.WellFormed.null_not_mem (formed : id.WellFormed) :
    '\x00' ∉ id.scope.toList ∧ '\x00' ∉ id.name.toList := by
  have null : Identifier.isPart '\x00' = false := by decide
  constructor
  · intro member
    exact Bool.false_ne_true (null.symm.trans (formed.scope _ member))
  · intro member
    exact Bool.false_ne_true (null.symm.trans (formed.name _ member))

theorem ScriptDirectory.isScriptFault_of_lookup (start : files.StartsNameable)
    (named : root.isNameable = true) (formed : id.WellFormed)
    (failed : ScriptDirectory.lookup files root id = .error failure) :
    failure.isScriptFault = true ∨ failure = .system := by
  rcases ScriptDirectory.pathFor_of_lookup failed with ⟨cause, rfl, -⟩ | searched
  · exact .inl rfl
  · -- The search for the file fails only where the system refuses.
    right
    cases resolved : files.resolve root with
    | error cause =>
      rw [pathFor, resolved] at searched
      cases searched
      exact FileTree.eq_system_of_resolve named resolved
    | ok directory =>
      have nameable := isNameable_written (FileTree.isNameable_of_resolve start resolved)
        formed.null_not_mem.1 formed.null_not_mem.2
      exact (refused_of_pathFor resolved nameable searched).1

/-- A source that gives no definition because of a script, or because the system refuses. -/
def Source.FailsPlainly (source : Source) : Prop :=
  ∀ id failure, id.WellFormed → source.lookup id = .error failure →
    failure.isScriptFault = true ∨ failure = .system

theorem CommandLine.failsPlainly_of_chooses {named : Option Path} (start : files.StartsNameable)
    (chooses : CommandLine.Chooses files named store) : (store.source files).FailsPlainly := by
  intro id failure formed failed
  change store.lookup files id = _ at failed
  cases chooses with
  | unnamed => cases failed
  | missing _ => cases failed
  | @directory path directory =>
    rw [Store.lookup, Store.lookupFirst] at failed
    split at failed
    · -- The built-in registry always answers.
      simp only [Store.lookupFirst, Store.lookup] at failed
      split at failed <;> cases failed
    · rw [Store.lookup, map_eq_error_iff] at failed
      exact ScriptDirectory.isScriptFault_of_lookup start
        (FileTree.isNameable_of_isDirectory directory) formed failed

theorem Script.isScriptFault_of_compile (plain : source.FailsPlainly)
    (failed : script.compile source = .error failure) :
    failure.isScriptFault = true ∨ failure = .system := by
  rcases Script.lookup_of_compile failed with fault | ⟨id, -, formed, looked⟩
  · exact .inl fault
  · exact plain id failure formed looked

/-! ## The whole production -/

namespace CommandLine

theorem FailsToRead.isInterpretation (fails : FailsToRead files path failure) :
    failure.isInterpretation = true ∨ failure = .system := by
  cases fails with
  | refused refused => exact .inr (FileTree.eq_system_of_isDirectory refused)
  | file _ failed =>
    exact (Script.isInterpretation_of_interpretFile failed).imp_right And.left
  | directory _ failed =>
    exact (Script.isInterpretation_of_interpretDirectory failed).imp_right And.left

/-- A stage fails with a failure of a kind that the run knows, or with a bare refusal. -/
theorem isReported_of_stumbles {settings : SettingsStore} {arguments : Arguments}
    (start : files.StartsNameable) (stumbles : Stumbles files settings arguments failure) :
    isReported failure = true ∨ failure = .system := by
  cases stumbles with
  | pack _ refused =>
    exact (Pack.isPackFault_of_check refused).imp_left fun fault => by simp [isReported, fault]
  | extensions _ _ refused => exact .inr (FileTree.eq_system_of_isDirectory refused)
  | reading _ _ _ _ fails =>
    exact fails.isInterpretation.imp_left fun fault => by simp [isReported, fault]
  | @compiling store groups index cause _ chooses _ first =>
    obtain ⟨script, _, failed⟩ := first.here
    rcases Script.isScriptFault_of_compile (failsPlainly_of_chooses start chooses) failed with
      fault | refused
    · rw [if_pos fault]
      exact .inl rfl
    · rw [refused]
      exact .inr rfl

end CommandLine

end LootScript
