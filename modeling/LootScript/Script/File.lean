import LootScript.FileTree.Basic
import LootScript.Json.Reader
import LootScript.Log.Traced
import LootScript.Script.Basic

/-!
# Script files

A script file is read, checked and judged, and whatever goes wrong is reported with its path. The
paths that are asked for have to exist; a directory is no script file, but the script files right
inside of it can be read together, in the order of their names.
-/
namespace LootScript

namespace Script

/-- The script in a content, which has to be JSON text of the right shape. -/
def ofContent (path : Path) (content : ByteArray) : Except Failure Script :=
  match Json.decode? content with
  | none => .error (.read .form path .notJson)
  | some value => match ScriptShape.ofJson value with
    | .error cause => .error (.read .form path cause)
    | .ok shape => (ofShape shape).mapError (.read .content path)

/-- A refusal by the system is reported with the path. -/
def refusedAt (path : Path) : Failure → Failure
  | .system => .read .access path .system
  | failure => failure

def loadFile (files : FileTree) (path : Path) : Traced Script := do
  let content ← .ofExcept ((files.read path).mapError (refusedAt path))
  let script ← .ofExcept (ofContent path content)
  .report (.scriptLoaded path script.pools.size script.removals.length)
  return script

/-- What stops a file from being read is reported with the path that was asked for. -/
def unreadableAt (path : Path) : Failure → Failure
  | failure@(.read ..) => .unreadableScript path failure
  | failure => failure

/-- Reads a file that was asked for. -/
def interpretFile (files : FileTree) (path : Path) : Traced Script := do
  if !(← .ofExcept (files.exists? path)) then
    .fail (.missing path.text)
  else if ← .ofExcept (files.isDirectory path) then
    .fail (.notAFile path.text)
  else
    .report (.interpreting path)
    (loadFile files path).mapFailure (unreadableAt path)

/-- The names of script files among those of files, in order. -/
def scriptNames (names : List String) : List String :=
  (names.filter Path.hasScriptEnding).mergeSort fun a b => decide (a ≤ b)

/-- Reads files one after the other; the first one that fails ends it. -/
def interpretFiles (files : FileTree) : List Path → Traced (List Script)
  | [] => return []
  | path :: rest => do
    let script ← interpretFile files path
    return script :: (← interpretFiles files rest)

/-- Reads all script files right inside of a directory that was asked for. -/
def interpretDirectory (files : FileTree) (path : Path) : Traced (List Script) := do
  if !(← .ofExcept (files.exists? path)) then
    .fail (.missing path.text)
  else
    let names := scriptNames (← .ofExcept (files.fileNames path))
    .report (.scriptsFound names.length path)
    interpretFiles files (names.map path.child)

end Script

end LootScript
