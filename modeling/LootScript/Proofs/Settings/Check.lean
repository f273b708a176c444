import LootScript.Proofs.FileTree
import LootScript.Proofs.Log.Quiet
import LootScript.Settings.Check

/-!
# The check of the settings

The check finds one error at most, in the directory of scripts, and what it says about the directory
of base scripts is only a warning. It fails where the system refuses to look at one of the two.
-/
namespace LootScript

theorem SettingsReport.quiet_events (report : SettingsReport) : Log.Quiet report.events := by
  unfold SettingsReport.events
  split
  · exact Log.quiet_nil
  · exact Log.quiet_singleton Log.Level.debug_lt_error

namespace SettingsStore

variable {files : FileTree} {profile : String} {settings : SettingsStore} {report : SettingsReport}
  {failure : Failure}

/-- What the check says about the directory of scripts. -/
def scriptsErrors (files : FileTree) (scripts : Path) : Except Failure (List String) := do
  let isThere ← files.exists? scripts
  let isDirectory ← files.isDirectory scripts
  return if !isThere then ["Scripts path does not exist: " ++ scripts.text]
    else if !isDirectory then ["Scripts path is not a directory: " ++ scripts.text]
    else []

/-- What the check says about the directory of base scripts. -/
def extensionsWarnings (files : FileTree) : Option Path → Except Failure (List String)
  | none => .ok []
  | some path => do
    if ← files.isDirectory path then return []
    else return ["Extensions path not found, using builtin registry only: " ++ path.text]

theorem check_eq (files : FileTree) (profile : String) (settings : SettingsStore) :
    settings.check files profile = (do
      let errors ← scriptsErrors files (settings.scriptsPath profile)
      let warnings ← extensionsWarnings files (settings.extensionsPath profile)
      return ⟨errors, warnings⟩) := by
  unfold check scriptsErrors extensionsWarnings
  generalize settings.scriptsPath profile = scripts
  dsimp only
  cases files.exists? scripts with
  | error failure => rfl
  | ok isThere =>
    cases files.isDirectory scripts with
    | error failure => rfl
    | ok isDirectory =>
      cases settings.extensionsPath profile with
      | none => cases isThere <;> cases isDirectory <;> rfl
      | some path =>
        dsimp only
        cases files.isDirectory path with
        | error failure => cases isThere <;> cases isDirectory <;> rfl
        | ok found => cases isThere <;> cases isDirectory <;> cases found <;> rfl

/-- The check finds at most one error, in the directory of scripts. -/
theorem errors_of_check (checked : settings.check files profile = .ok report) :
    (files.isDirectory (settings.scriptsPath profile) = .ok true ∧ report.errors = []) ∨
    (files.exists? (settings.scriptsPath profile) = .ok false ∧ report.errors =
      ["Scripts path does not exist: " ++ (settings.scriptsPath profile).text]) ∨
    (files.exists? (settings.scriptsPath profile) = .ok true ∧
      files.isDirectory (settings.scriptsPath profile) = .ok false ∧ report.errors =
      ["Scripts path is not a directory: " ++ (settings.scriptsPath profile).text]) := by
  rw [check_eq, bind_eq_ok_iff] at checked
  obtain ⟨errors, found, rest⟩ := checked
  obtain ⟨warnings, _, rest⟩ := bind_eq_ok_iff.mp rest
  cases rest
  rw [scriptsErrors, bind_eq_ok_iff] at found
  obtain ⟨isThere, looked, found⟩ := found
  obtain ⟨isDirectory, looked', found⟩ := bind_eq_ok_iff.mp found
  cases isThere with
  | false =>
    cases found
    exact .inr (.inl ⟨looked, rfl⟩)
  | true =>
    cases isDirectory with
    | false =>
      cases found
      exact .inr (.inr ⟨looked, looked', rfl⟩)
    | true =>
      cases found
      exact .inl ⟨looked', rfl⟩

theorem errors_of_missing (checked : settings.check files profile = .ok report)
    (absent : files.exists? (settings.scriptsPath profile) = .ok false) : report.errors =
      ["Scripts path does not exist: " ++ (settings.scriptsPath profile).text] := by
  rcases errors_of_check checked with ⟨directory, _⟩ | ⟨_, errors⟩ | ⟨isThere, _⟩
  · rw [FileTree.exists?_of_isDirectory directory] at absent
    cases absent
  · exact errors
  · rw [absent] at isThere
    cases isThere

theorem errors_of_notDirectory (checked : settings.check files profile = .ok report)
    (isThere : files.exists? (settings.scriptsPath profile) = .ok true)
    (file : files.isDirectory (settings.scriptsPath profile) = .ok false) : report.errors =
      ["Scripts path is not a directory: " ++ (settings.scriptsPath profile).text] := by
  rcases errors_of_check checked with ⟨directory, _⟩ | ⟨absent, _⟩ | ⟨_, _, errors⟩
  · rw [file] at directory
    cases directory
  · rw [isThere] at absent
    cases absent
  · exact errors

theorem eq_system_of_check (failed : settings.check files profile = .error failure) :
    failure = .system := by
  rw [check_eq, bind_eq_error_iff] at failed
  rcases failed with refused | ⟨errors, _, failed⟩
  · rw [scriptsErrors, bind_eq_error_iff] at refused
    rcases refused with refused | ⟨isThere, _, refused⟩
    · exact FileTree.eq_system_of_exists? refused
    · rcases bind_eq_error_iff.mp refused with refused | ⟨isDirectory, _, done⟩
      · exact FileTree.eq_system_of_isDirectory refused
      · cases done
  · rcases bind_eq_error_iff.mp failed with refused | ⟨warnings, _, done⟩
    · unfold extensionsWarnings at refused
      split at refused
      · cases refused
      · rcases bind_eq_error_iff.mp refused with refused | ⟨isDirectory, _, refused⟩
        · exact FileTree.eq_system_of_isDirectory refused
        · split at refused <;> cases refused
    · cases done

end SettingsStore

end LootScript
