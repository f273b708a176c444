import LootScript.CommandLine.Run
import Std.Time.DateTime.Timestamp

/-!
# The program

A run works on a file tree, so the places that its arguments name are read from the disk first. The
files that a run may read in a directory are script files; only these are taken along. Settings keep
their defaults.
-/
namespace LootScript

namespace CommandLine

/-- A place of the disk: a file with its content, or a directory. -/
abbrev Survey := List (Path × Option ByteArray)

/--
What stands at a path, and the directories and script files below it down to a depth. Every
directory comes before what is in it.
-/
def survey (depth : Nat) (path : Path) : IO Survey := do
  let place : IO.FS.DirEntry := ⟨".", path.text⟩
  if ← place.path.isDir then
    match depth with
    | 0 => return [(path, none)]
    | depth + 1 =>
      let names := (← place.path.readDir).toList.map (·.fileName)
      let below ← names.mapM fun name => do
        let inner : IO.FS.DirEntry := ⟨path.text, name⟩
        if Path.hasScriptEnding name || (← inner.path.isDir) then survey depth (path.child name)
        else return []
      return (path, none) :: below.flatten
  else
    try return [(path, some (← IO.FS.readBinFile place.path))]
    catch _ => return []

/-- The paths that a run looks at, and how deep it looks into the directories there. -/
def sights (settings : SettingsStore) (arguments : Arguments) : List (Nat × Path) :=
  let scripts := match arguments.paths with
    | [] => [settings.scriptsPath profile]
    | paths => paths
  scripts.map (1, ·) ++ arguments.packMeta.toList.map (0, ·) ++
    (match arguments.settings with
      | .file path => [(0, path)]
      | .standard | .nowhere => []) ++
    arguments.extensions.toList.map (FileTree.maxPathBytes, ·)

/-- The tree of what was seen; what cannot stand in a tree is left out. -/
def treeOf (workingDirectory : Path) (survey : Survey) : FileTree :=
  survey.foldl
    (fun files (path, content) => match content with
      | some content => (files.put path content).files
      | none => (files.makeDirectory path).files)
    ⟨[], .present workingDirectory.parts⟩

/-- The part of the disk that a run looks at. -/
def filesFor (settings : SettingsStore) (request : Request) : IO FileTree := do
  let workingDirectory := Path.ofText (← IO.currentDir).toString
  let survey ← match request with
    | .run arguments => (sights settings arguments).mapM fun (depth, path) => survey depth path
    | _ => pure []
  return treeOf workingDirectory ((workingDirectory, none) :: survey.flatten)

def Diagnostic.text : Diagnostic → String
  | .usage => CommandLine.usage
  | .plain text => text ++ "\n"
  | .logged record colors => record.consoleLine colors ++ "\n"

end CommandLine

end LootScript

open LootScript in
def main (arguments : List String) : IO UInt32 := do
  let settings : SettingsStore := .empty
  let files ← CommandLine.filesFor settings (Arguments.parse arguments)
  let now := (← Std.Time.Timestamp.now).toSecondsSinceUnixEpoch.val
  match CommandLine.run files settings arguments now with
  | .ok outcome =>
    for diagnostic in outcome.diagnostics do
      (← IO.getStderr).putStr diagnostic.text
    (← IO.getStdout).putStr outcome.output
    return UInt32.ofNat outcome.code
  | .error failure =>
    (← IO.getStderr).putStr (failure.message ++ "\n")
    return 1
