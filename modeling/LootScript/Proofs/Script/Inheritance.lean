import LootScript.Proofs.Script.Combination

/-!
# Inheritance as combination

To extend a script is to be laid over it. A script whose walk comes to the top compiles to its
ancestors, from the topmost down, with the script itself on top; so compiling it and applying the
removals is combining the same scripts, none of which extends anything any more.
-/
namespace LootScript

namespace Script

variable {source : Source} {script last : Script} {ancestors : List Ancestor}

theorem overlayAll_map_withoutBase (scripts : List Script) :
    overlayAll (scripts.map withoutBase) = overlayAll scripts := by
  rw [overlayAll, List.foldl_map]
  rfl

/-- What a lineage hands down is its scripts laid over one another, the nearest one last. -/
theorem inherited_eq_overlayAll (lineage : Lineage) :
    lineage.inherited = overlayAll (lineage.ancestors.map Ancestor.script).reverse := by
  rw [Lineage.inherited, overlayAll, List.foldl_reverse, List.foldr_map]

/-- A walk past different identifiers to a script that extends nothing is the whole lineage. -/
theorem compile_of_climbs (climbs : source.Climbs script ancestors last) (plain : last.base = none)
    (different : (ancestors.map Ancestor.identifier).Nodup) :
    script.compile source =
      .ok (overlayAll (script :: ancestors.map Ancestor.script).reverse) := by
  have whole : source.lineage script = ⟨ancestors, .top⟩ := by
    have walked : source.climb [] script = _ := Source.climb_of_climbs climbs different
    rw [List.nil_append, Source.climb_of_base_eq_none plain, List.append_nil] at walked
    exact walked
  -- The script goes on top of what its lineage hands down.
  rw [compile, whole, Lineage.outcome]
  simp only [Except.map, inherited_eq_overlayAll, List.reverse_cons, overlayAll_append,
    overlayAll_singleton, overlay_withoutBase]

/-- Whatever a script compiles to is made of a walk that comes to the top. -/
theorem exists_climbs_of_compile {result : Script} (compiled : script.compile source = .ok result) :
    ∃ ancestors last, source.Climbs script ancestors last ∧
      result = overlayAll (script :: ancestors.map Ancestor.script).reverse := by
  obtain ⟨last, climbs, different, holds⟩ := Source.climbs_climb source [] script List.nodup_nil
  rw [List.nil_append] at different holds
  refine ⟨_, last, climbs, ?_⟩
  cases ending : (source.climb [] script).ending with
  | top =>
    rw [ending] at holds
    rw [compile_of_climbs climbs holds different] at compiled
    exact (Except.ok.inj compiled).symm
  | circle reference =>
    rw [compile, Source.lineage, Lineage.outcome, ending] at compiled
    cases compiled
  | refused reference failure =>
    rw [compile, Source.lineage, Lineage.outcome, ending] at compiled
    cases compiled

theorem base_of_compile {result : Script} (compiled : script.compile source = .ok result) :
    result.base = none := by
  obtain ⟨ancestors, last, _, rfl⟩ := exists_climbs_of_compile compiled
  exact base_overlayAll _

/--
If the bases of a script resolve up to one that extends nothing, and no identifier comes twice on
the way, then the script compiles, to one that extends nothing. What remains after the removals is
the combination of the same scripts without their references, from the topmost one down.
-/
theorem compile_eq_combine (source : Source) (script last : Script) (ancestors : List Ancestor)
    (climbs : source.Climbs script ancestors last) (plain : last.base = none)
    (different : (ancestors.map fun ancestor => ancestor.reference.identifier).Nodup) :
    ∃ compiled, script.compile source = .ok compiled ∧ compiled.base = none ∧
      combine ((script :: ancestors.map Ancestor.script).reverse.map withoutBase) source =
        .ok compiled.applyRemovals := by
  refine ⟨_, compile_of_climbs climbs plain different, base_overlayAll _, ?_⟩
  rw [combine_eq_ok_iff]
  -- Without their references all scripts compile to themselves.
  refine ⟨_, CompileTo.of_base_eq_none source ?_, ?_⟩
  · intro other member
    obtain ⟨original, _, rfl⟩ := List.mem_map.mp member
    rfl
  · rw [overlayAll_map_withoutBase]

/-- A base that extends another one, each by its own spelling and with pools of the same names. -/
private def twoBases : Source := (Store.registry (.ofList [
  (⟨"minecraft", "base"⟩, .obj [("type", .str "entity"),
    ("pools", .obj [("a", .obj [("type", .str "empty")]), ("b", .obj [("type", .str "empty")])])]),
  (⟨"minecraft", "middle"⟩, .obj [("extend", .str "minecraft:base"),
    ("pools", .obj [("c", .obj [("type", .str "empty")]), ("b", .obj [("type", .str "empty")])]),
    ("remove", .arr [.str "a"])])])).source ⟨[], .present []⟩

/-- The topmost script gives the kind and the first places, though two scripts lie over it. -/
theorem compile_middle_over_base :
    let base : Script := { sketch ["a", "b"] [] with kind := some "entity" }
    let toBase : Reference := ⟨"minecraft:base", ⟨"minecraft", "base"⟩, rfl⟩
    let middle : Script := { sketch ["c", "b"] ["a"] with base := some toBase }
    let toMiddle : Reference := ⟨"middle", ⟨"minecraft", "middle"⟩, rfl⟩
    let leaf : Script := { sketch ["d", "c", "a"] ["d"] with base := some toMiddle }
    twoBases.Climbs leaf [⟨toMiddle, middle⟩, ⟨toBase, base⟩] base ∧ base.base = none ∧
      [toMiddle.identifier, toBase.identifier].Nodup ∧
      ∃ compiled, leaf.compile twoBases = .ok compiled ∧ compiled.base = none ∧
        combine [base, middle.withoutBase, leaf.withoutBase] twoBases =
          .ok compiled.applyRemovals ∧
        compiled.applyRemovals = { sketch ["b", "c"] ["a", "d"] with kind := some "entity" } := by
  intro base toBase middle toMiddle leaf
  have first : twoBases.resolveText (.str "middle") = .ok middle := by decide +kernel
  have second : twoBases.resolveText (.str "minecraft:base") = .ok base := by decide +kernel
  have climbs : twoBases.Climbs leaf [⟨toMiddle, middle⟩, ⟨toBase, base⟩] base :=
    .up rfl first (.up rfl second (.here base))
  have different : [toMiddle.identifier, toBase.identifier].Nodup := by decide
  obtain ⟨compiled, outcome, plain, combined⟩ :=
    compile_eq_combine twoBases leaf base [⟨toMiddle, middle⟩, ⟨toBase, base⟩] climbs rfl different
  refine ⟨climbs, rfl, different, compiled, outcome, plain, combined, ?_⟩
  rw [compile_of_climbs climbs rfl different] at outcome
  cases outcome
  rfl

end Script

end LootScript
