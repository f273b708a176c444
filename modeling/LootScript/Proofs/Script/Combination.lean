import LootScript.Proofs.Failure
import LootScript.Proofs.Script.Compilation
import Mathlib.Data.List.Forall2

/-!
# Combining in blocks

A combination succeeds if each of its scripts compiles, and is what they compile to, laid over one
another, without what is removed. What a block of scripts combines to may stand for the block: its
early removals are made again in the end, together with all others.
-/
namespace LootScript

namespace Script

/-- What scripts compile to, one by one and in their order. -/
def CompileTo (source : Source) (scripts compiled : List Script) : Prop :=
  List.Forall₂ (fun script result => script.compile source = .ok result) scripts compiled

variable {source : Source} {scripts compiled xs ys : List Script} {result : Script}

/-- The position from which scripts are counted matters only to the failures. -/
theorem compileAll_eq_ok_iff (index : Nat) :
    compileAll source index scripts = .ok compiled ↔ CompileTo source scripts compiled := by
  rw [CompileTo]
  induction scripts generalizing index compiled with
  | nil => cases compiled <;> simp [compileAll]
  | cons script rest ih =>
    rw [compileAll]
    cases first : script.compile source with
    | error failure => cases compiled <;> simp [first]
    | ok result =>
      rw [map_eq_ok_iff]
      cases compiled with
      | nil => simp
      | cons result' others => simp [first, ih, and_comm]

theorem combine_eq_ok_iff :
    combine scripts source = .ok result ↔
      ∃ compiled, CompileTo source scripts compiled ∧
        (overlayAll compiled).applyRemovals = result := by
  simp only [combine, map_eq_ok_iff, compileAll_eq_ok_iff]

theorem CompileTo.append {compiled' : List Script} (first : CompileTo source xs compiled)
    (second : CompileTo source ys compiled') :
    CompileTo source (xs ++ ys) (compiled ++ compiled') :=
  List.rel_append first second

theorem CompileTo.exists_of_append (both : CompileTo source (xs ++ ys) compiled) :
    ∃ first second, CompileTo source xs first ∧ CompileTo source ys second ∧
      compiled = first ++ second := by
  refine ⟨compiled.take xs.length, compiled.drop xs.length, ?_, ?_,
    (List.take_append_drop xs.length compiled).symm⟩
  · simpa [CompileTo] using List.forall₂_take xs.length both
  · simpa [CompileTo] using List.forall₂_drop xs.length both

theorem CompileTo.unique {compiled' : List Script} (first : CompileTo source scripts compiled)
    (second : CompileTo source scripts compiled') : compiled = compiled' :=
  List.right_unique_forall₂' (fun _ _ _ one other => Except.ok.inj (one.symm.trans other))
    first second

/-- Scripts that extend nothing compile to themselves. -/
theorem CompileTo.of_base_eq_none (source : Source)
    (plain : ∀ script ∈ scripts, script.base = none) : CompileTo source scripts scripts := by
  rw [CompileTo, List.forall₂_same]
  intro script member
  exact compile_of_base_eq_none source (plain script member)

@[simp]
theorem base_applyRemovals (script : Script) : script.applyRemovals.base = script.base := rfl

theorem combine_of_base_eq_none (source : Source) (plain : ∀ script ∈ scripts, script.base = none) :
    combine scripts source = .ok (overlayAll scripts).applyRemovals :=
  combine_eq_ok_iff.mpr ⟨scripts, CompileTo.of_base_eq_none source plain, rfl⟩

/-- A script of pools that yield nothing, by their names and the names that it removes. -/
def sketch (pools removals : List String) : Script where
  kind := none
  base := none
  pools := .ofList (pools.map fun name =>
    (⟨Identifier.defaultScope, name⟩, ⟨.empty, none, none, [], []⟩))
  removals := removals.map fun name => ⟨Identifier.defaultScope, name⟩

/--
What a block of scripts combines to may stand for the block, at any place among other scripts. The
result is the same in kind, pools, order of the pools and removals.
-/
theorem combine_block (source : Source) (xs ys zs : List Script) (block result : Script)
    (inner : combine ys source = .ok block)
    (outer : combine (xs ++ ys ++ zs) source = .ok result) :
    combine (xs ++ [block] ++ zs) source = .ok result := by
  rw [combine_eq_ok_iff] at inner outer ⊢
  obtain ⟨middle, compiled, rfl⟩ := inner
  obtain ⟨all, compiledAll, rfl⟩ := outer
  obtain ⟨front, above, compiledFront, compiledAbove, rfl⟩ := compiledAll.exists_of_append
  obtain ⟨below, middle', compiledBelow, compiled', rfl⟩ := compiledFront.exists_of_append
  obtain rfl := compiled.unique compiled'
  -- What was combined extends nothing, so it compiles to itself.
  have itself : CompileTo source [(overlayAll middle).applyRemovals]
      [(overlayAll middle).applyRemovals] := by
    refine CompileTo.of_base_eq_none source ?_
    intro script member
    rw [List.mem_singleton.mp member, base_applyRemovals, base_overlayAll]
  refine ⟨below ++ [(overlayAll middle).applyRemovals] ++ above,
    (compiledBelow.append itself).append compiledAbove, ?_⟩
  rw [overlayAll_append, overlayAll_append, overlayAll_singleton, overlay_withoutBase,
    applyRemovals_overlay_applyRemovals, ← overlayAll_append, ← overlayAll_append]

/-- What the block removes stands below and above it, and what it keeps has its place from below. -/
theorem combine_block_between :
    let source := (Store.registry .empty).source ⟨[], .present []⟩
    let below := sketch ["a", "b", "d"] ["f"]
    let parts := [sketch ["a", "b"] [], sketch ["c", "b"] ["a", "d"]]
    let above := sketch ["d", "e", "a"] []
    let block := sketch ["b", "c"] ["a", "d"]
    let result := sketch ["b", "c", "e"] ["f", "a", "d"]
    combine parts source = .ok block ∧ combine ([below] ++ parts ++ [above]) source = .ok result ∧
      combine ([below] ++ [block] ++ [above]) source = .ok result := by
  intro source below parts above block result
  have inner : combine parts source = .ok block :=
    combine_of_base_eq_none source (by simp [parts, sketch])
  have outer : combine ([below] ++ parts ++ [above]) source = .ok result :=
    combine_of_base_eq_none source (by simp [below, parts, above, sketch])
  exact ⟨inner, outer, combine_block source [below] parts [above] block result inner outer⟩

end Script

end LootScript
