import LootScript.Proofs.Drop.Rules

/-!
# Writing drops and reading them again

Making a drop only checks its flag, so that more drops can be made and written than are read again.
The drops of a tree are written one by one with the right type and the right flag. What is left of
the rules is where children stand, and there the first drop in the tree that breaks them decides.
-/
namespace LootScript

namespace Drop

mutual

/-- The drops of a tree are written each in its own shape, in the same order. -/
theorem nodes_toShape : (drop : Drop) → drop.toShape.nodes = drop.nodes.map toShape
  | ⟨kind, name, children, functions, conditions⟩ => by
    rw [nodes, List.map_cons]
    cases children with
    | none => rfl
    | some drops => exact congrArg (_ :: ·) (nodesOfAll_toShapes drops)

theorem nodesOfAll_toShapes : (drops : List Drop) →
    DropShape.nodesOfAll (toShapes drops) = (nodesOfAll drops).map toShape
  | [] => rfl
  | drop :: rest => by
    rw [toShapes, DropShape.nodesOfAll, nodesOfAll, List.map_append, nodes_toShape drop,
      nodesOfAll_toShapes rest]

end

/-- The faults that are found in a drop as it is written. -/
theorem reports_ofShape_toShape (drop : Drop) :
    Reports ((drop.nodes.filter (·.Misplaced)).map fun node =>
      .script .dropLayout (.str node.kind.text)) (ofShape drop.toShape) := by
  have same : drop.toShape.nodes.flatMap DropShape.faults =
      (drop.nodes.filter (·.Misplaced)).map fun node =>
        .script .dropLayout (.str node.kind.text) := by
    rw [nodes_toShape, List.flatMap_map]
    -- A drop in its place has no faults, and any other has a single one.
    induction drop.nodes with
    | nil => rfl
    | cons node rest ih =>
      rw [List.flatMap_cons, ih, faults_toShape, List.filter_cons]
      by_cases misplaced : node.Misplaced <;> simp [misplaced]
  exact same ▸ reports_ofShape drop.toShape

/--
A drop that is written is read again as the same drop exactly if no drop in the tree is misplaced.
Otherwise the first misplaced one is refused, by its kind in full.
-/
theorem ofShape_reread (location : String) (drop : Drop) :
    ((DropShape.ofJson location drop.toJson >>= ofShape) = .ok drop ↔
      ∀ node ∈ drop.nodes, ¬node.Misplaced) ∧
    (DropShape.ofJson location drop.toJson >>= ofShape) =
      match drop.nodes.find? (·.Misplaced) with
      | none => .ok drop
      | some node => .error (.script .dropLayout (.str ("minecraft:" ++ node.kind.name))) := by
  have read : (DropShape.ofJson location drop.toJson >>= ofShape) = ofShape drop.toShape := by
    rw [ofJson_toJson]
    rfl
  have reports := reports_ofShape_toShape drop
  rw [read]
  cases found : drop.nodes.find? (·.Misplaced) with
  | none =>
    have placed : ∀ node ∈ drop.nodes, ¬node.Misplaced := by
      simpa using found
    have same := ofShape_toShape drop ((valid_iff drop).mpr placed)
    exact ⟨iff_of_true same placed, same⟩
  | some node =>
    have refused : ofShape drop.toShape = .error (.script .dropLayout (.str node.kind.text)) := by
      rw [reports.eq_error_iff, List.head?_map, List.head?_filter, found]
      rfl
    refine ⟨?_, refused⟩
    rw [refused]
    refine iff_of_false nofun fun placed => ?_
    exact placed node (List.mem_of_find?_eq_some found) (by simpa using List.find?_some found)

example :
    (DropShape.ofJson "drop"
      (Drop.toJson ⟨.group, none, some [⟨.item, none, some [], [], []⟩], [], []⟩) >>= ofShape) =
    .error (.script .dropLayout (.str "minecraft:item")) := by
  decide +kernel

end Drop

end LootScript
