import LootScript.Extension.Directory
import LootScript.Extension.Registry
import LootScript.Script.Combination
import LootScript.Log.Traced

/-!
# Stores of base scripts

Base scripts are kept in registries and in directories, and stores can be chained: a chain asks its
stores in order and takes the first definition it is given. A definition that is null is no
definition. Seen together with a file tree, a store is a source: its definitions are values of its
registries or contents of files, and of both there are finitely many.
-/
namespace LootScript

inductive Store
  | registry (definitions : Registry)
  | directory (root : Path)
  | chain (stores : List Store)

namespace Store

/-- A null definition counts as none. -/
def present : Option Json → Option Json
  | some .null => none
  | other => other

mutual

def lookup (files : FileTree) (id : Identifier) : Store → Except Failure (Option Json)
  | .registry definitions => .ok (present (definitions.find? id))
  | .directory root => (ScriptDirectory.lookup files root id).map present
  | .chain stores => lookupFirst files id stores

/-- Asks stores in order; a definition, or a failure, ends the search. -/
def lookupFirst (files : FileTree) (id : Identifier) : List Store → Except Failure (Option Json)
  | [] => .ok none
  | store :: rest => match lookup files id store with
    | .ok none => lookupFirst files id rest
    | outcome => outcome

end

mutual

def events (files : FileTree) (id : Identifier) : Store → List Event
  | .registry _ => []
  | .directory root => ScriptDirectory.events files root id
  | .chain stores => eventsFirst files id stores

def eventsFirst (files : FileTree) (id : Identifier) : List Store → List Event
  | [] => []
  | store :: rest => events files id store ++ match lookup files id store with
    | .ok none => eventsFirst files id rest
    | _ => []

end

mutual

def registered : Store → List Json
  | .registry definitions => definitions.entries.map Prod.snd
  | .directory _ => []
  | .chain stores => registeredAll stores

def registeredAll : List Store → List Json
  | [] => []
  | store :: rest => registered store ++ registeredAll rest

end

/-- The definitions that a store can give out, together with some that it may not reach. -/
def definitions (files : FileTree) (store : Store) : List Json :=
  store.registered ++ files.contents.filterMap Json.decode?

theorem present_eq_some {definition : Option Json} {value : Json}
    (given : present definition = some value) : definition = some value := by
  unfold present at given
  split at given
  · cases given
  · exact given

theorem mem_of_find? {definitions : Registry} {id : Identifier} {definition : Json}
    (found : definitions.find? id = some definition) :
    definition ∈ definitions.entries.map Prod.snd := by
  unfold OrderedMap.find? at found
  generalize definitions.entries = entries at found
  induction entries with
  | nil => cases found
  | cons entry rest ih =>
    rw [List.lookup_cons] at found
    split at found
    · cases found; simp
    · exact List.mem_cons_of_mem _ (ih found)

mutual

theorem mem_of_lookup {files : FileTree} {id : Identifier} {definition : Json} :
    (store : Store) → lookup files id store = .ok (some definition) →
      definition ∈ store.registered ∨ definition ∈ files.contents.filterMap Json.decode?
  | .registry definitions, found => by
    rw [lookup] at found
    exact .inl (mem_of_find? (present_eq_some (Except.ok.inj found)))
  | .directory root, found => by
    rw [lookup] at found
    cases looked : ScriptDirectory.lookup files root id with
    | error failure => rw [looked] at found; cases found
    | ok given =>
      rw [looked] at found
      have present := present_eq_some (Except.ok.inj found)
      rw [present] at looked
      obtain ⟨content, member, decoded⟩ := ScriptDirectory.mem_contents_of_lookup looked
      exact .inr (List.mem_filterMap.mpr ⟨content, member, decoded⟩)
  | .chain stores, found => by
    rw [lookup] at found
    exact mem_of_lookupFirst stores found

theorem mem_of_lookupFirst {files : FileTree} {id : Identifier} {definition : Json} :
    (stores : List Store) → lookupFirst files id stores = .ok (some definition) →
      definition ∈ registeredAll stores ∨
        definition ∈ files.contents.filterMap Json.decode?
  | [], found => by cases found
  | store :: rest, found => by
    rw [lookupFirst] at found
    rw [registeredAll]
    split at found
    · exact (mem_of_lookupFirst rest found).imp_left (List.mem_append_right _)
    · exact (mem_of_lookup store found).imp_left (List.mem_append_left _)

end

/-- A store at one moment. -/
def source (files : FileTree) (store : Store) : Source where
  lookup id := store.lookup files id
  finite := ⟨store.definitions files, fun _ _ found =>
    List.mem_append.mpr (mem_of_lookup store found)⟩

/-! ## What resolving and compiling report -/

def resolveEvents (files : FileTree) (store : Store) (id : Identifier) : List Event :=
  store.events files id ++ match store.lookup files id with
    | .ok (some _) => [.baseFound id]
    | _ => []

def lineageEvents (files : FileTree) (store : Store) (lineage : Lineage) : List Event :=
  let follow (reference : Reference) :=
    .compilingBase reference.identifier :: store.resolveEvents files reference.identifier
  lineage.ancestors.flatMap (fun ancestor => follow ancestor.reference) ++
    match lineage.ending with
    | .refused reference _ => follow reference
    | _ => []

end Store

end LootScript
