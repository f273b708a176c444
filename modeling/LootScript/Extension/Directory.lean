import LootScript.FileTree.Basic
import LootScript.Identifier
import LootScript.Json.Reader
import LootScript.Log.Event

/-!
# Directories of base scripts

In a directory the definition of `scope:name` is the file at `scope/name` with one of the script
endings, and the first ending for which there is a file counts. Parts of an identifier may be
absolute paths or climb with `..`; the place that results has to lie strictly below the directory,
or the identifier stands for nothing.
-/
namespace LootScript

namespace ScriptDirectory

/-- The path of an identifier in a directory, as it is written. -/
def written (directory : Path) (id : Identifier) : Path :=
  (directory.join (.ofText id.scope)).join (.ofText id.name)

/-- The place of an identifier in a directory, before any ending is added. -/
def base (directory : Path) (id : Identifier) : List String :=
  Path.collapse (written directory id).parts

/-- Whether a place lies below another one and is not that place itself. -/
def isBelow (root place : List String) : Bool := root.isPrefixOf place && root.length < place.length

/-- The files that an identifier may stand for, first choice first. -/
def candidates (place : List String) : List Path :=
  Path.scriptEndings.map fun ending =>
    .ofPlace (place.dropLast ++ [place.getLastD "" ++ ending])

def firstFile? (files : FileTree) : List Path → Except Failure (Option Path)
  | [] => .ok none
  | path :: rest => do
    if ← files.isFile path then return some path else firstFile? files rest

def contains (directory : Path) (id : Identifier) : Bool :=
  isBelow directory.parts (base directory id)

def pathFor (files : FileTree) (root : Path) (id : Identifier) : Except Failure (Option Path) :=
  match files.resolve root with
  | .error failure => .error failure
  | .ok directory =>
    if !(written directory id).isNameable then .error .nullCharacter
    else if contains directory id then firstFile? files (candidates (base directory id))
    else .ok none

def lookup (files : FileTree) (root : Path) (id : Identifier) : Except Failure (Option Json) :=
  let unreadable cause := Failure.scriptBy .unreadableExtension (.str id.text) cause
  match pathFor files root id with
  | .error failure => .error failure
  | .ok none => .ok none
  | .ok (some path) => match files.read path with
    | .error cause => .error (unreadable cause)
    | .ok content => match Json.decode? content with
      | none => .error (unreadable .notJson)
      | some definition => .ok (some definition)

def searchEvents (files : FileTree) (root : Path) (id : Identifier) : List Event :=
  match files.resolve root with
  | .error _ => []
  | .ok directory =>
    if (written directory id).isNameable && !contains directory id then [.outsideRoot id directory]
    else []

def events (files : FileTree) (root : Path) (id : Identifier) : List Event :=
  searchEvents files root id ++ match pathFor files root id with
    | .ok (some path) => [.readingBase id path]
    | _ => []

theorem mem_contents_of_lookup {files : FileTree} {root : Path} {id : Identifier}
    {definition : Json} (found : lookup files root id = .ok (some definition)) :
    ∃ content ∈ files.contents, Json.decode? content = some definition := by
  simp only [lookup] at found
  split at found
  · cases found
  · cases found
  · next path _ =>
    split at found
    · cases found
    · next content read =>
      split at found
      · cases found
      · next value decoded =>
        cases found
        exact ⟨content, FileTree.mem_contents_of_read read, decoded⟩

end ScriptDirectory

end LootScript
