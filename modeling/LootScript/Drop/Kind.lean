import LootScript.Identifier

/-!
# Kinds of drops

The kinds of drops are a closed list. A kind is written as an identifier in the default scope.
Three kinds are composite: they hold other drops, and a script has to mark them as unsafe.
-/
namespace LootScript

inductive DropKind
  | item
  | tag
  | lootTable
  | group
  | alternatives
  | sequence
  | dynamic
  | empty
  deriving DecidableEq

namespace DropKind

def all : List DropKind :=
  [.item, .tag, .lootTable, .group, .alternatives, .sequence, .dynamic, .empty]

def name : DropKind → String
  | .item => "item"
  | .tag => "tag"
  | .lootTable => "loot_table"
  | .group => "group"
  | .alternatives => "alternatives"
  | .sequence => "sequence"
  | .dynamic => "dynamic"
  | .empty => "empty"

def ofName? (name : String) : Option DropKind := all.find? fun kind => kind.name = name

@[simp]
theorem ofName?_name (kind : DropKind) : ofName? kind.name = some kind := by cases kind <;> decide

/-- How a kind is written in full. -/
def text (kind : DropKind) : String := Identifier.text ⟨Identifier.defaultScope, kind.name⟩

def isComposite : DropKind → Bool
  | .group | .alternatives | .sequence => true
  | _ => false

/-- Reads the type of a drop: an identifier in the default scope that names a kind. -/
def ofJson (value : Json) : Except Failure DropKind :=
  match Identifier.ofJson value with
  | .error cause => .error (.scriptBy .dropType value cause)
  | .ok id =>
    if id.scope ≠ Identifier.defaultScope then .error (.script .unknownDropType value)
    else match ofName? id.name with
      | some kind => .ok kind
      | none => .error (.script .unknownDropType value)

end DropKind

end LootScript
