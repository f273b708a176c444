import LootScript.FileTree.Basic

/-!
# Changes to file trees

Writing, making directories and deleting. The system may refuse a change; one that takes several
steps then leaves behind what the steps before have done.
-/
namespace LootScript

/-- The working directory is deleted with any directory around it. -/
def WorkingDirectory.without (place : List String) : WorkingDirectory → WorkingDirectory
  | .present working =>
    if place.isPrefixOf working then .deleted working.dropLast else .present working
  | .deleted parent => .deleted parent

/-- The tree after a change, and whether the change went through. -/
structure FileTree.Changed where
  files : FileTree
  result : Except Failure Unit

namespace FileTree

namespace Changed

/-- A single step changes nothing when it is refused. -/
def step (files : FileTree) (change : FileTree → Except Failure FileTree) : Changed :=
  match change files with
  | .ok files => ⟨files, .ok ()⟩
  | .error failure => ⟨files, .error failure⟩

/-- One more step, unless a step before was refused. -/
def andThen (changed : Changed) (change : FileTree → Except Failure FileTree) : Changed :=
  match changed.result with
  | .ok () => step changed.files change
  | .error _ => changed

end Changed

/-- Writes, replaces or, given nothing, deletes one name in a directory. -/
def setName (name : String) (entry : Option Entry) :
    List (String × Entry) → List (String × Entry)
  | [] => match entry with
    | some entry => [(name, entry)]
    | none => []
  | (other, old) :: rest =>
    if other = name then
      match entry with
      | some entry => (name, entry) :: rest
      | none => rest
    else (other, old) :: setName name entry rest

/-- Changes the entry at a place; the directories on the way have to exist. -/
def setBelow (entry : Option Entry) :
    List String → List (String × Entry) → Option (List (String × Entry))
  | [], _ => none
  | [name], entries => some (setName name entry entries)
  | name :: rest, entries => match entries.lookup name with
    | some (.directory inner) => do
      let inner ← setBelow entry rest inner
      return setName name (some (.directory inner)) entries
    | _ => none

def setAt (files : FileTree) (place : List String) (entry : Option Entry) :
    Except Failure FileTree :=
  match setBelow entry place files.root with
  | some root => .ok { files with root := root }
  | none => .error .system

/-- The place of a name that need not exist, in a directory that has to. -/
def placeOf (files : FileTree) (path : Path) : Except Failure (List String) :=
  match files.locate path with
  | .found place _ => .ok place
  | .deleted | .refused | .unnameable => .error (refusal path)
  | .absent => match files.locate path.parent with
    | .found place (.directory _) =>
      if path.parts = [] ∨ path.name = ".." then .error .system else .ok (place ++ [path.name])
    | _ => .error .system

/-- Writes a file in a directory that exists. -/
def write (files : FileTree) (path : Path) (content : ByteArray) : Except Failure FileTree := do
  let place ← files.placeOf path
  match files.entryAt? place with
  | some (.directory _) => .error .system
  | _ => files.setAt place (some (.file content))

/-- Adds to the end of a file, which is made if it is not there. -/
def append (files : FileTree) (path : Path) (content : ByteArray) : Except Failure FileTree :=
  match files.locate path with
  | .found place (.file old) => files.setAt place (some (.file (old ++ content)))
  | .absent => files.write path content
  | _ => .error (refusal path)

/-- The directory that a path is to become is missing itself, or the one around it. -/
inductive Missing
  | itself (place : List String)
  | around
  | neither

def missing (files : FileTree) (path : Path) : Missing :=
  match files.locate path, files.locate path.parent with
  | .absent, .found place (.directory _) =>
    if path.parts = [] ∨ path.name = ".." then .neither else .itself (place ++ [path.name])
  | .absent, .absent => .around
  | _, _ => .neither

/-- Makes one directory; one that exists already is left as it is. -/
def makeOne (path : Path) (files : FileTree) : Except Failure FileTree :=
  match files.missing path with
  | .itself place => files.setAt place (some (.directory []))
  | .around => .error .system
  | .neither => do if ← files.isDirectory path then .ok files else .error (refusal path)

/-- Makes a directory and, before it, those around it that are missing. -/
def makeDirectories (files : FileTree) (path : Path) : Nat → Changed
  | 0 => .step files (makeOne path)
  | depth + 1 => match files.missing path with
    | .around => (files.makeDirectories path.parent depth).andThen (makeOne path)
    | _ => .step files (makeOne path)

def makeDirectory (files : FileTree) (path : Path) : Changed :=
  -- Each step up to a parent takes a part away.
  files.makeDirectories path path.parts.length

/-- Writes a file, in directories that are made where they are missing. -/
def put (files : FileTree) (path : Path) (content : ByteArray) : Changed :=
  (files.makeDirectory path.parent).andThen (·.write path content)

/-- Takes an entry away. -/
def remove (place : List String) (files : FileTree) : Except Failure FileTree := do
  let files ← files.setAt place none
  return { files with workingDirectory := files.workingDirectory.without place }

/-- Takes away the entries that stand in a directory under some names. -/
def removeAll (place : List String) : List String → FileTree → Except Failure FileTree
  | [], files => .ok files
  | name :: rest, files => do removeAll place rest (← files.remove (place ++ [name]))

/-- Takes away a directory that is empty and that the path ends with the name of. -/
def removeDirectory (path : Path) (files : FileTree) : Except Failure FileTree :=
  match files.locate path with
  | .found place (.directory []) =>
    if path.parts = [] ∨ path.name = ".." then .error .system else files.remove place
  | _ => .error .system

/--
Deletes an entry with all that is in it. A directory is emptied first, so it stays behind, empty, if
the path to it runs through something inside of it.
-/
def delete (files : FileTree) (path : Path) : Changed :=
  match files.locate path with
  | .found place (.directory entries) =>
    (Changed.step files (removeAll place (entries.map Prod.fst))).andThen (removeDirectory path)
  | .found place (.file _) => .step files (remove place)
  | _ => ⟨files, .error (refusal path)⟩

end FileTree

end LootScript
