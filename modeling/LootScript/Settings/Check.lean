import LootScript.FileTree.Basic
import LootScript.Settings.Store

/-!
# Checking settings

The directory of scripts has to exist. A missing directory of base scripts is only worth a warning,
for the built-in registry remains. The settings file itself must not be a directory.
-/
namespace LootScript

structure SettingsReport where
  errors : List String
  warnings : List String

namespace SettingsReport

def isValid (report : SettingsReport) : Bool := report.errors.isEmpty

def events (report : SettingsReport) : List Event :=
  if report.isValid then [] else [.settingsInvalid report.errors.length]

end SettingsReport

namespace SettingsStore

def checkFile (files : FileTree) (file : Option String) : Except Failure Unit :=
  match file with
  | none => .ok ()
  | some text => do
    if ← files.isDirectory (.ofText text) then
      .error (.configuration ("Settings file is a directory: " ++ text))

def check (files : FileTree) (profile : String) (store : SettingsStore) :
    Except Failure SettingsReport := do
  let scripts := store.scriptsPath profile
  let errors ←
    if !(← files.exists? scripts) then
      pure ["Scripts path does not exist: " ++ scripts.text]
    else if !(← files.isDirectory scripts) then
      pure ["Scripts path is not a directory: " ++ scripts.text]
    else pure []
  let warnings ← match store.extensionsPath profile with
    | none => pure []
    | some path =>
      if ← files.isDirectory path then pure []
      else pure ["Extensions path not found, using builtin registry only: " ++ path.text]
  return ⟨errors, warnings⟩

end SettingsStore

end LootScript
