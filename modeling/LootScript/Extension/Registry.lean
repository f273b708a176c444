import LootScript.OrderedMap
import LootScript.Identifier

/-!
# Registries

A registry holds definitions by identifier. Keys are written identifiers; several spellings of one
identifier are one entry, and the last definition counts.
-/
namespace LootScript

abbrev Registry := OrderedMap Identifier Json

namespace Registry

/-- Reads the keys in order and fails with the first one that is no identifier. -/
def insertEntries (registry : Registry) : List (String × Json) → Except Failure Registry
  | [] => .ok registry
  | (key, definition) :: rest => match Identifier.parse key with
    | .error failure => .error failure
    | .ok id => insertEntries (registry.insert id definition) rest

def ofEntries (entries : List (String × Json)) : Except Failure Registry :=
  insertEntries .empty entries

/-- The identifiers of all entries in the order of their characters. -/
def identifiers (registry : Registry) : List String :=
  (registry.keys.map Identifier.text).mergeSort fun a b => decide (a ≤ b)

end Registry

end LootScript
