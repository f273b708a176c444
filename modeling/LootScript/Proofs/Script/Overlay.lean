import LootScript.Proofs.OrderedMap
import LootScript.Script.Combination

/-!
# The algebra of overlays

Laying scripts over one another is associative, and a script that says nothing changes nothing, so a
list of scripts may be laid over one another in blocks. Applying removals keeps the pools that are
not listed, and keeping some of the pools passes through overlays. Together these say that removals
may be applied to a block early, as long as they are applied to the whole in the end.
-/
namespace LootScript

namespace Script

/-- The script as it stands, without what it extends. -/
def withoutBase (script : Script) : Script := { script with base := none }

/-- The script with only those of its pools whose identifier passes the test. -/
def keeping (script : Script) (keep : Identifier → Bool) : Script :=
  { script with pools := script.pools.filterKeys keep }

theorem withoutBase_of_base_eq_none {script : Script} (plain : script.base = none) :
    script.withoutBase = script := by
  obtain ⟨kind, base, pools, removals⟩ := script
  cases plain
  rfl

/-! ## Absorbing -/

theorem absorb_assoc (a b c : Script) : (a.absorb b).absorb c = a.absorb (b.absorb c) := by
  have pools : (a.pools.insertAll b.pools.entries).insertAll c.pools.entries =
      a.pools.insertAll (b.pools.insertAll c.pools.entries).entries :=
    (OrderedMap.insertAll_insertAll a.pools b.pools c.pools.entries).symm
  have removals : a.removals ++ b.removals ++ c.removals =
      a.removals ++ (b.removals ++ c.removals) :=
    List.append_assoc _ _ _
  simp only [absorb, pools, removals]

@[simp]
theorem absorb_empty (script : Script) : script.absorb empty = script := by
  obtain ⟨kind, base, pools, removals⟩ := script
  simp [absorb, empty, OrderedMap.empty]

@[simp]
theorem pools_empty_absorb (script : Script) : (empty.absorb script).pools = script.pools :=
  OrderedMap.empty_insertAll_entries script.pools

/-! ## Laying over -/

theorem overlay_assoc (a b c : Script) : (a.overlay b).overlay c = a.overlay (b.overlay c) := by
  -- The kinds do not meet the rest: the last one that is given counts on either side.
  have kinds : (c.kind <|> (b.kind <|> a.kind)) = ((c.kind <|> b.kind) <|> a.kind) := by
    cases c.kind <;> rfl
  calc (a.overlay b).overlay c
    _ = { (a.absorb b).absorb c with kind := c.kind <|> (b.kind <|> a.kind) } := rfl
    _ = { a.absorb (b.absorb c) with kind := (c.kind <|> b.kind) <|> a.kind } := by
      rw [absorb_assoc, kinds]
    _ = a.overlay (b.overlay c) := rfl

@[simp]
theorem overlay_empty (script : Script) : script.overlay empty = script := by
  rw [overlay, absorb_empty]
  rfl

@[simp]
theorem empty_overlay (script : Script) : empty.overlay script = script.withoutBase := by
  cases kind : script.kind <;> simp [overlay, absorb, empty, withoutBase, kind]

/-- What the upper script extends does not matter. -/
@[simp]
theorem overlay_withoutBase (a b : Script) : a.overlay b.withoutBase = a.overlay b := rfl

private theorem foldl_overlay (start : Script) (scripts : List Script) :
    scripts.foldl overlay start = start.overlay (overlayAll scripts) := by
  -- By associativity the start may stay below; the empty script in between makes no difference.
  induction scripts generalizing start with
  | nil => exact (overlay_empty start).symm
  | cons script rest ih =>
    have whole : overlayAll (script :: rest) = (empty.overlay script).overlay (overlayAll rest) :=
      ih (empty.overlay script)
    rw [List.foldl_cons, ih, whole, overlay_assoc, overlay_assoc, ← overlay_assoc start empty,
      overlay_empty]

theorem overlayAll_append (xs ys : List Script) :
    overlayAll (xs ++ ys) = (overlayAll xs).overlay (overlayAll ys) := by
  rw [overlayAll, List.foldl_append, foldl_overlay]
  rfl

theorem overlayAll_singleton (script : Script) : overlayAll [script] = script.withoutBase :=
  empty_overlay script

@[simp]
theorem base_overlayAll (scripts : List Script) : (overlayAll scripts).base = none := by
  have kept (start : Script) : (scripts.foldl overlay start).base = start.base := by
    induction scripts generalizing start with
    | nil => rfl
    | cons script rest ih => exact ih (start.overlay script)
  exact kept empty

/-! ## Removing -/

@[simp]
theorem removals_applyRemovals (script : Script) :
    script.applyRemovals.removals = script.removals := rfl

theorem applyRemovals_eq_keeping (script : Script) :
    script.applyRemovals = script.keeping (· ∉ script.removals) := by
  rw [applyRemovals, OrderedMap.foldl_erase]
  rfl

theorem keeping_absorb (a b : Script) (keep : Identifier → Bool) :
    (a.absorb b).keeping keep = (a.keeping keep).absorb (b.keeping keep) := by
  have pools : (a.pools.insertAll b.pools.entries).filterKeys keep =
      (a.pools.filterKeys keep).insertAll (b.pools.filterKeys keep).entries :=
    OrderedMap.filterKeys_insertAll a.pools keep b.pools.entries
  simp only [keeping, absorb, pools]

theorem keeping_overlay (a b : Script) (keep : Identifier → Bool) :
    (a.overlay b).keeping keep = (a.keeping keep).overlay (b.keeping keep) := by
  rw [overlay, overlay, ← keeping_absorb]
  rfl

theorem keeping_keeping (script : Script) (keep again : Identifier → Bool) :
    (script.keeping again).keeping keep = script.keeping fun id => keep id && again id := by
  simp only [keeping, OrderedMap.filterKeys_filterKeys]

/-- Removing early makes no difference to what a later test keeps, if it keeps nothing removed. -/
theorem keeping_applyRemovals (script : Script) {keep : Identifier → Bool}
    (covered : ∀ id ∈ script.removals, keep id = false) :
    script.applyRemovals.keeping keep = script.keeping keep := by
  rw [applyRemovals_eq_keeping, keeping_keeping]
  congr 1
  funext id
  -- A pool that is removed early would not pass the later test either.
  by_cases listed : id ∈ script.removals
  · simp [covered id listed]
  · simp [listed]

/-- Removals that were applied before have nothing left to remove. -/
theorem applyRemovals_applyRemovals (script : Script) :
    script.applyRemovals.applyRemovals = script.applyRemovals := by
  calc script.applyRemovals.applyRemovals
    _ = script.applyRemovals.keeping (· ∉ script.removals) := applyRemovals_eq_keeping _
    _ = script.keeping (· ∉ script.removals) := keeping_applyRemovals script (by simp)
    _ = script.applyRemovals := (applyRemovals_eq_keeping script).symm

/-- Removals applied to a part of the whole vanish behind those applied to the whole. -/
theorem applyRemovals_overlay_applyRemovals (below part above : Script) :
    ((below.overlay part.applyRemovals).overlay above).applyRemovals =
      ((below.overlay part).overlay above).applyRemovals := by
  have removals : ((below.overlay part.applyRemovals).overlay above).removals =
      ((below.overlay part).overlay above).removals := rfl
  have covered (id : Identifier) (listed : id ∈ part.removals) :
      decide (id ∉ ((below.overlay part).overlay above).removals) = false := by
    simp [overlay, absorb, listed]
  rw [applyRemovals_eq_keeping, applyRemovals_eq_keeping ((below.overlay part).overlay above),
    removals, keeping_overlay, keeping_overlay, keeping_overlay, keeping_overlay,
    keeping_applyRemovals part covered]

end Script

end LootScript
