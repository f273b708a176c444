import LootScript.Extension.Reference
import LootScript.Drop.Tree
import LootScript.OrderedMap
import LootScript.Script.Shape

/-!
# Scripts

A script adds pools to a loot table and lists pools to be removed from it. It may extend a base
script, whose pools it then inherits. Reading a script judges the pools in their order, each by its
drop before its key, then the reference to the base script, then the removals.

Absorbing is the one way in which scripts are put together: the pools of the second script are
written over those of the first, and its removals are added to the end of the list. Removals are
applied as a separate step, and the list of them stays.
-/
namespace LootScript

structure Script where
  kind : Option String
  base : Option Reference
  pools : OrderedMap Identifier Drop
  removals : List Identifier
  deriving DecidableEq

namespace Script

def empty : Script := ⟨none, none, .empty, []⟩

instance : Inhabited Script := ⟨empty⟩

/-! ## Reading and writing -/

/-- Judges the pools of a script; a key that comes again replaces the earlier drop. -/
def readPools (pools : OrderedMap Identifier Drop) :
    List (String × DropShape) → Except Failure (OrderedMap Identifier Drop)
  | [] => .ok pools
  | (key, shape) :: rest => do
    let drop ← Drop.ofShape shape
    let identifier ← Identifier.parse key
    readPools (pools.insert identifier drop) rest

def readBase : Option String → Except Failure (Option Reference)
  | none => .ok none
  | some raw => (Reference.parse raw).map some

def ofShape (shape : ScriptShape) : Except Failure Script := do
  let pools ← readPools .empty shape.pools
  let base ← readBase shape.extend
  let removals ← Identifier.parseAll shape.remove
  return ⟨shape.type, base, pools, removals⟩

/-- Checks the shape of a JSON value and judges it as a script. -/
def ofJson (value : Json) : Except Failure Script := do
  ofShape (← ScriptShape.ofJson value)

/-- The script form: the pools are always written, the other fields if they say something. -/
def toJson (script : Script) : Json :=
  .obj (
    (match script.kind with
      | some kind => [("type", .str kind)]
      | none => []) ++
    (match script.base with
      | some reference => [("extend", .str reference.raw)]
      | none => []) ++
    [("pools", .obj (script.pools.entries.map fun pool => (pool.1.text, pool.2.toJson)))] ++
    (match script.removals with
      | [] => []
      | removals => [("remove", .arr (removals.map fun id => .str id.text))]))

/-! ## Putting scripts together -/

/-- Writes the pools and removals of another script over those of this one. -/
def absorb (script other : Script) : Script :=
  { script with
    pools := script.pools.insertAll other.pools.entries
    removals := script.removals ++ other.removals }

/-- Absorbs a script that also says what kind of table the result is, if it says anything. -/
def overlay (script other : Script) : Script :=
  { script.absorb other with kind := other.kind <|> script.kind }

/-- Deletes the pools that are to be removed, one after the other. -/
def applyRemovals (script : Script) : Script :=
  { script with pools := script.removals.foldl OrderedMap.erase script.pools }

/-- The pools that are in fact there when their removal is applied, in that order. -/
def removedPools (pools : OrderedMap Identifier Drop) : List Identifier → List Identifier
  | [] => []
  | id :: rest =>
    if pools.contains id then id :: removedPools (pools.erase id) rest
    else removedPools pools rest

/-- The same script, for values that agree and whatever the order of the pools. -/
def agrees (a b : Script) : Bool :=
  a.kind == b.kind && decide (a.base = b.base) && a.pools.agrees Drop.agrees b.pools &&
    a.removals == b.removals

end Script

end LootScript
