/-!
# Paths

A path is split at its slashes. Empty segments and segments that are a single dot say nothing and
are dropped; `..` is kept, because only the file system knows where it leads. A path is anchored at
the root when it begins with a slash, and two slashes, no more and no fewer, are an anchor of their
own.
-/
namespace LootScript

inductive Path.Anchor
  | relative
  | slash
  | twoSlashes
  deriving DecidableEq

structure Path where
  anchor : Path.Anchor
  parts : List String
  deriving DecidableEq

namespace Path

/-- The pieces of a text between its slashes. -/
def segments : List Char → List (List Char)
  | [] => [[]]
  | c :: rest =>
    if c = '/' then [] :: segments rest
    else match segments rest with
      | [] => [[c]]
      | segment :: others => (c :: segment) :: others

def anchorOf (text : List Char) : Anchor :=
  match (text.takeWhile (· = '/')).length with
  | 0 => .relative
  | 2 => .twoSlashes
  | _ => .slash

def ofText (text : String) : Path :=
  let named := (segments text.toList).filter fun segment => segment ≠ [] ∧ segment ≠ ['.']
  ⟨anchorOf text.toList, named.map String.ofList⟩

def Anchor.text : Anchor → String
  | .relative => ""
  | .slash => "/"
  | .twoSlashes => "//"

/-- The written form; a relative path without parts is the dot. -/
def text (path : Path) : String :=
  if path.anchor = .relative ∧ path.parts = [] then "."
  else path.anchor.text ++ String.intercalate "/" path.parts

def isAbsolute (path : Path) : Bool := path.anchor ≠ .relative

/-- No part holds a null character, which no name on a disk can. -/
def isNameable (path : Path) : Bool := path.parts.all fun part => !part.toList.contains '\x00'

/-- A path seen from another one; an absolute path stays itself. -/
def join (base path : Path) : Path :=
  if path.isAbsolute then path else ⟨base.anchor, base.parts ++ path.parts⟩

/-- The last part; a path without parts has the empty name. -/
def name (path : Path) : String := path.parts.getLastD ""

def parent (path : Path) : Path := { path with parts := path.parts.dropLast }

def child (path : Path) (name : String) : Path := { path with parts := path.parts ++ [name] }

/-- Takes each `..` back together with the part before it; above the root there is only the root. -/
def collapse (parts : List String) : List String :=
  parts.foldl (fun done part => if part = ".." then done.dropLast else done ++ [part]) []

/-- The path of a place given by its parts from the root. -/
def ofPlace (place : List String) : Path := ⟨.slash, place⟩

/-- An absolute path without `..` and with a single slash in front. -/
def normal (path : Path) : Path := .ofPlace (collapse path.parts)

/-! ## Script files -/

/-- The endings that mark a script file, in the order in which a base script is looked for. -/
def scriptEndings : List String := [".ult", ".megu", ".json.merge"]

def hasScriptEnding (name : String) : Bool :=
  scriptEndings.any fun ending => ending.toList.isSuffixOf name.toList

def isScript (path : Path) : Bool := hasScriptEnding path.name

end Path

end LootScript
