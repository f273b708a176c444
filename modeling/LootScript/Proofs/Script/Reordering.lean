import LootScript.Proofs.Script.Inheritance
import LootScript.Proofs.Script.Precedence

/-!
# Scripts in another order

Scripts that do not contradict each other may be combined in any order. Which drops count as equal
is left open, as identical drops and drops whose values agree both deserve the name. Pools that some
script removes may contradict each other as they please, for the removals come last.
-/
namespace LootScript

/-- Drops that are equal in their values; a drop is always equal to itself. -/
def Drop.Same (a b : Drop) : Prop := a = b ∨ a.agrees b = true

instance : Std.Refl Drop.Same := ⟨fun _ => .inl rfl⟩

namespace Script

/-- Any two of the scripts agree on the kind and on the pools that no script removes. -/
structure Independent (same : Drop → Drop → Prop) (scripts : List Script) : Prop where
  kinds : ∀ a ∈ scripts, ∀ b ∈ scripts, ∀ kind ∈ a.kind, ∀ kind' ∈ b.kind, kind = kind'
  drops : ∀ a ∈ scripts, ∀ b ∈ scripts, a ≠ b → ∀ id, (∀ script ∈ scripts, id ∉ script.removals) →
    ∀ drop ∈ a.pools.find? id, ∀ drop' ∈ b.pools.find? id, same drop drop'

/-- The same kind, equal drops in the same pools, and the same removals in some order. -/
structure EqualUpToOrder (same : Drop → Drop → Prop) (a b : Script) : Prop where
  kind : a.kind = b.kind
  base : a.base = b.base
  pools : ∀ id, Option.Rel same (a.pools.find? id) (b.pools.find? id)
  removals : a.removals.Perm b.removals

variable {same : Drop → Drop → Prop} {source : Source} {scripts scripts' compiled : List Script}
  {layers layers' : List Script} {a b : Script}

/-- What scripts compile to follows them when they change places. -/
theorem CompileTo.exists_perm (each : CompileTo source scripts compiled)
    (reordered : scripts'.Perm scripts) :
    ∃ compiled', CompileTo source scripts' compiled' ∧ compiled'.Perm compiled :=
  List.perm_comp_forall₂ reordered each

theorem getLast?_eq_of_perm {α : Type} {xs ys : List α} (equal : ∀ x ∈ xs, ∀ y ∈ xs, x = y)
    (reordered : ys.Perm xs) : ys.getLast? = xs.getLast? := by
  cases last : xs.getLast? with
  | none =>
    rw [List.getLast?_eq_none_iff] at last ⊢
    subst last
    exact reordered.eq_nil
  | some x =>
    cases last' : ys.getLast? with
    | none =>
      rw [List.getLast?_eq_none_iff] at last'
      subst last'
      rw [reordered.symm.eq_nil] at last
      cases last
    | some y =>
      have member : y ∈ xs := reordered.subset (List.mem_of_getLast? last')
      rw [equal y member x (List.mem_of_getLast? last)]

theorem Layered.exists_layer_of_mem {result : Script} (layered : Layered layers result)
    {id : Identifier} (there : id ∈ result.pools.keys) :
    ∃ layer ∈ layers, result.pools.find? id = layer.pools.find? id ∧
      ∃ drop, layer.pools.find? id = some drop := by
  obtain ⟨below, layer, above, rfl, here, last⟩ :=
    exists_last_layer ((layered.present id).mp there).1
  refine ⟨layer, by simp, layered.drop below layer above id rfl here last there, ?_⟩
  rw [← Option.ne_none_iff_exists', ne_eq, OrderedMap.find?_eq_none_iff]
  exact fun absent => absent here

/-- The layers do not tell in which order they lie if they do not contradict each other. -/
theorem Layered.equalUpToOrder [Std.Refl same] (one : Layered layers a) (other : Layered layers' b)
    (independent : Independent same layers) (reordered : layers'.Perm layers) :
    EqualUpToOrder same b a := by
  constructor
  case kind =>
    -- The last kind that is named decides, and all that are named are the same.
    rw [one.kind, other.kind]
    refine getLast?_eq_of_perm ?_ (reordered.filterMap _)
    intro kind member kind' member'
    obtain ⟨layer, mem, named⟩ := List.mem_filterMap.mp member
    obtain ⟨layer', mem', named'⟩ := List.mem_filterMap.mp member'
    exact independent.kinds layer mem layer' mem' kind named kind' named'
  case base => rw [one.base, other.base]
  case removals =>
    rw [one.removals, other.removals]
    exact reordered.flatMap_right _
  case pools =>
    intro id
    have both : id ∈ b.pools.keys ↔ id ∈ a.pools.keys := by
      rw [one.present, other.present]
      simp only [reordered.mem_iff]
    by_cases there : id ∈ a.pools.keys
    · -- Either order has its drop from some layer, and both layers say the same of the pool.
      obtain ⟨layer, mem, drawn, drop, found⟩ := one.exists_layer_of_mem there
      obtain ⟨layer', mem', drawn', drop', found'⟩ := other.exists_layer_of_mem (both.mpr there)
      have kept := ((one.present id).mp there).2
      rw [drawn, drawn', found, found']
      refine .some ?_
      by_cases itself : layer' = layer
      · subst itself
        obtain rfl := Option.some.inj (found'.symm.trans found)
        exact Std.Refl.refl _
      · exact independent.drops layer' (reordered.subset mem') layer mem itself id kept
          drop' found' drop found
    · rw [OrderedMap.find?_eq_none_iff.mpr there,
        OrderedMap.find?_eq_none_iff.mpr fun present => there (both.mp present)]
      exact .none

/--
Scripts that compile, and that do not contradict each other once they are compiled, may be combined
in any order. The kind is the same, each pool has an equal drop, and the removals are the same ones
in some order.
-/
theorem combine_perm [Std.Refl same] (each : CompileTo source scripts compiled)
    (independent : Independent same compiled) (reordered : scripts'.Perm scripts) :
    ∃ result result', combine scripts source = .ok result ∧
      combine scripts' source = .ok result' ∧ EqualUpToOrder same result' result := by
  obtain ⟨compiled', each', reordered'⟩ := each.exists_perm reordered
  have one := layered_overlayAll compiled
  have other := layered_overlayAll compiled'
  exact ⟨_, _, combine_eq_ok_iff.mpr ⟨compiled, each, rfl⟩,
    combine_eq_ok_iff.mpr ⟨compiled', each', rfl⟩, one.equalUpToOrder other independent reordered'⟩

/-- A base script whose pool holds the number one. -/
private def oneBase : Source := (Store.registry (.ofList [
  (⟨"minecraft", "base"⟩, .obj [("type", .str "entity"), ("pools", .obj [
    ("a", .obj [("type", .str "empty"), ("functions", .arr [.int ⟨1, by decide⟩])])])])])).source
  ⟨[], .present []⟩

/--
One script inherits a pool that the other one has with a value that agrees, and a pool of which they
have different drops is removed.
-/
theorem combine_perm_of_inherited :
    let drop (functions : List Json) : Drop := ⟨.empty, none, none, functions, []⟩
    let pools (inA inC : List Json) : OrderedMap Identifier Drop :=
      .ofList [(⟨"minecraft", "a"⟩, drop inA), (⟨"minecraft", "c"⟩, drop inC)]
    let toBase : Reference := ⟨"base", ⟨"minecraft", "base"⟩, rfl⟩
    let leaf : Script := { sketch ["c"] ["c"] with base := some toBase }
    let flat : Script := ⟨some "entity", none, pools [.int ⟨1, by decide⟩] [], [⟨"minecraft", "c"⟩]⟩
    let other : Script := ⟨some "entity", none, pools [.bool true] [.null], [⟨"minecraft", "x"⟩]⟩
    CompileTo oneBase [leaf, other] [flat, other] ∧ Independent Drop.Same [flat, other] ∧
      [other, leaf].Perm [leaf, other] ∧
      ∃ result result', combine [leaf, other] oneBase = .ok result ∧
        combine [other, leaf] oneBase = .ok result' ∧ EqualUpToOrder Drop.Same result' result := by
  intro drop pools toBase leaf flat other
  have inherits : leaf.compile oneBase = .ok flat := by
    let base : Script := ⟨some "entity", none,
      .ofList [(⟨"minecraft", "a"⟩, drop [.int ⟨1, by decide⟩])], []⟩
    have found : oneBase.resolveText (.str "base") = .ok base := by decide +kernel
    exact compile_of_climbs (.up rfl found (.here base)) rfl (List.nodup_singleton _)
  have plain : other.compile oneBase = .ok other := compile_of_base_eq_none oneBase rfl
  have each : CompileTo oneBase [leaf, other] [flat, other] := .cons inherits (.cons plain .nil)
  have independent : Independent Drop.Same [flat, other] := by
    constructor
    case kinds => simp [flat, other]
    case drops =>
      intro a member b member' different id kept
      have apart : id ≠ ⟨"minecraft", "c"⟩ := by simpa [flat] using kept flat (by simp)
      have only (inA inC : List Json) : ∀ found ∈ (pools inA inC).find? id, found = drop inA := by
        intro found held
        simp only [pools, OrderedMap.ofList, OrderedMap.insertAll_cons, OrderedMap.insertAll_nil,
          OrderedMap.find?_insert, if_neg apart] at held
        split at held
        · exact (Option.some.inj held).symm
        · cases held
      simp only [List.mem_cons, List.not_mem_nil, or_false] at member member'
      intro found held found' held'
      -- Only the pool that one script inherits is left, and the two values agree either way round.
      rcases member with rfl | rfl <;> rcases member' with rfl | rfl
      · exact absurd rfl different
      · rw [only _ _ found held, only _ _ found' held']
        exact .inr (by decide +kernel)
      · rw [only _ _ found held, only _ _ found' held']
        exact .inr (by decide +kernel)
      · exact absurd rfl different
  have reordered : [other, leaf].Perm [leaf, other] := .swap leaf other []
  exact ⟨each, independent, reordered, combine_perm each independent reordered⟩

end Script

end LootScript
