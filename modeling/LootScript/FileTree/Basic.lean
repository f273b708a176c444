import LootScript.Failure

/-!
# File trees

A tree of files and directories, and the directory from which relative paths start. There are no
links, so every place has one path from the root and `..` leads back along it; it still has to start
from a directory that exists. The working directory may have been deleted: it is then empty for
good, though the directory above it can still be reached. A path that names nothing is told apart
from a path that the system refuses to look up because it, or a part of it, is too long, and from
one that cannot even be handed to the system.
-/
namespace LootScript

inductive Entry
  | file (content : ByteArray)
  | directory (entries : List (String × Entry))
  deriving Inhabited

/-- Where relative paths start; a place is a list of names from the root. -/
inductive WorkingDirectory
  | present (place : List String)
  /-- A directory that is made at its place later is another one. -/
  | deleted (parent : List String)

structure FileTree where
  root : List (String × Entry)
  workingDirectory : WorkingDirectory

/-- What a path leads to. -/
inductive Located
  | found (place : List String) (entry : Entry)
  /-- The working directory, which has been deleted. -/
  | deleted
  | absent
  | refused
  | unnameable

namespace FileTree

/-- The entry below another one. -/
def descend : Entry → List String → Option Entry
  | entry, [] => some entry
  | .file _, _ :: _ => none
  | .directory entries, name :: rest => (entries.lookup name).bind (descend · rest)

def entryAt? (files : FileTree) (place : List String) : Option Entry :=
  descend (.directory files.root) place

def maxNameBytes : Nat := 255

def maxPathBytes : Nat := 4095

/-- Whether the system refuses to look at a path, whatever it leads to. -/
def isTooLong (path : Path) : Bool := maxPathBytes < path.text.utf8ByteSize

/-- Follows the parts of a path from an entry. -/
def follow (files : FileTree) (place : List String) : Entry → List String → Located
  | entry, [] => .found place entry
  | .file _, _ :: _ => .absent
  | .directory entries, part :: rest =>
    if part = ".." then
      -- What is above a place exists, so only the root stays where it is.
      match files.entryAt? place.dropLast with
      | some parent => follow files place.dropLast parent rest
      | none => .absent
    else if maxNameBytes < part.utf8ByteSize then .refused
    else match entries.lookup part with
      | some entry => follow files (place ++ [part]) entry rest
      | none => .absent

/-- Follows the parts of a path from a place. -/
def followFrom (files : FileTree) (place parts : List String) : Located :=
  match files.entryAt? place with
  | some entry => files.follow place entry parts
  | none => .absent

def locate (files : FileTree) (path : Path) : Located :=
  if !path.isNameable then .unnameable
  else if isTooLong path then .refused
  else if path.isAbsolute then files.followFrom [] path.parts
  else match files.workingDirectory, path.parts with
    | .present place, parts => files.followFrom place parts
    | .deleted _, [] => .deleted
    | .deleted parent, part :: rest =>
      if part = ".." then files.followFrom parent rest else .absent

def exists? (files : FileTree) (path : Path) : Except Failure Bool :=
  match files.locate path with
  | .found _ _ | .deleted => .ok true
  | .absent | .unnameable => .ok false
  | .refused => .error .system

def isDirectory (files : FileTree) (path : Path) : Except Failure Bool :=
  match files.locate path with
  | .found _ (.directory _) | .deleted => .ok true
  | .found _ (.file _) | .absent | .unnameable => .ok false
  | .refused => .error .system

def isFile (files : FileTree) (path : Path) : Except Failure Bool :=
  match files.locate path with
  | .found _ (.file _) => .ok true
  | .found _ (.directory _) | .deleted | .absent | .unnameable => .ok false
  | .refused => .error .system

/-- Why a path cannot be used, if what it leads to is not what is wanted. -/
def refusal (path : Path) : Failure := if path.isNameable then .system else .nullCharacter

def read (files : FileTree) (path : Path) : Except Failure ByteArray :=
  match files.locate path with
  | .found _ (.file content) => .ok content
  | _ => .error (refusal path)

/-- The entries of a directory, in no order that means anything. -/
def list (files : FileTree) (path : Path) : Except Failure (List (String × Entry)) :=
  match files.locate path with
  | .found _ (.directory entries) => .ok entries
  | .deleted => .ok []
  | _ => .error (refusal path)

/--
The names of the files right inside of a directory. All of its entries have to be looked at, each by
its own path, to tell the files apart; a single path that is too long ends it.
-/
def fileNames (files : FileTree) (path : Path) : Except Failure (List String) := do
  let entries ← files.list path
  if entries.any fun (name, _) => isTooLong (path.child name) then .error .system
  else return entries.filterMap fun
    | (name, .file _) => some name
    | (_, .directory _) => none

/-- The absolute form of a path; there is none for what is seen from a deleted directory. -/
def absolute (files : FileTree) (path : Path) : Except Failure Path :=
  if path.isAbsolute then .ok path
  else match files.workingDirectory with
    | .present place => .ok ((Path.ofPlace place).join path)
    | .deleted _ => .error .system

/-- The absolute form of a path, without `..`. -/
def resolve (files : FileTree) (path : Path) : Except Failure Path :=
  if path.isNameable then (files.absolute path).map Path.normal else .error .nullCharacter

mutual

/-- The contents of all files of an entry. -/
def contentsOf : Entry → List ByteArray
  | .file content => [content]
  | .directory entries => contentsOfAll entries

def contentsOfAll : List (String × Entry) → List ByteArray
  | [] => []
  | (_, entry) :: rest => contentsOf entry ++ contentsOfAll rest

end

def contents (files : FileTree) : List ByteArray := contentsOfAll files.root

theorem contentsOf_subset_of_lookup {entries : List (String × Entry)} {name : String}
    {entry : Entry} (found : entries.lookup name = some entry) :
    contentsOf entry ⊆ contentsOfAll entries := by
  induction entries with
  | nil => cases found
  | cons first rest ih =>
    obtain ⟨key, value⟩ := first
    rw [List.lookup_cons] at found
    simp only [contentsOfAll]
    split at found
    · cases found; exact List.subset_append_left _ _
    · exact List.Subset.trans (ih found) (List.subset_append_right _ _)

theorem contentsOf_subset_of_descend {place : List String} {entry below : Entry}
    (found : descend entry place = some below) : contentsOf below ⊆ contentsOf entry := by
  induction place generalizing entry with
  | nil => cases entry <;> (cases found; exact List.Subset.refl _)
  | cons name rest ih =>
    cases entry with
    | file content => cases found
    | directory entries =>
      simp only [descend, Option.bind_eq_some_iff] at found
      obtain ⟨next, here, further⟩ := found
      exact List.Subset.trans (ih further) (contentsOf_subset_of_lookup here)

theorem contentsOf_subset_of_follow {files : FileTree} {parts place place' : List String}
    {entry entry' : Entry} (inside : contentsOf entry ⊆ files.contents)
    (found : files.follow place entry parts = .found place' entry') :
    contentsOf entry' ⊆ files.contents := by
  induction parts generalizing place entry with
  | nil => cases entry <;> (cases found; exact inside)
  | cons part rest ih =>
    cases entry with
    | file content => cases found
    | directory entries =>
      rw [follow] at found
      split at found
      · split at found
        · next parent above => exact ih (contentsOf_subset_of_descend above) found
        · cases found
      · split at found
        · cases found
        · split at found
          · next next here =>
            exact ih (List.Subset.trans (contentsOf_subset_of_lookup here) inside) found
          · cases found

theorem contentsOf_subset_of_followFrom {files : FileTree} {place parts place' : List String}
    {entry : Entry} (found : files.followFrom place parts = .found place' entry) :
    contentsOf entry ⊆ files.contents := by
  unfold followFrom at found
  split at found
  · next start here =>
    exact contentsOf_subset_of_follow (contentsOf_subset_of_descend here) found
  · cases found

theorem contentsOf_subset_of_locate {files : FileTree} {path : Path} {place : List String}
    {entry : Entry} (located : files.locate path = .found place entry) :
    contentsOf entry ⊆ files.contents := by
  unfold locate at located
  split at located
  · cases located
  · split at located
    · cases located
    · split at located
      · exact contentsOf_subset_of_followFrom located
      · split at located
        · exact contentsOf_subset_of_followFrom located
        · cases located
        · split at located
          · exact contentsOf_subset_of_followFrom located
          · cases located

theorem mem_contents_of_read {files : FileTree} {path : Path} {content : ByteArray}
    (read : files.read path = .ok content) : content ∈ files.contents := by
  unfold FileTree.read at read
  split at read
  · next place other located =>
    cases read
    exact contentsOf_subset_of_locate located (by simp [contentsOf])
  · cases read

end FileTree

end LootScript
