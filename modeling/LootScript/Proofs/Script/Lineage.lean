import LootScript.Proofs.Script.Walk
import Mathlib.Data.Set.Card

/-!
# Lineages as walks

The lineage of a script is its walk, cut short at the first identifier that comes again. Since the
identifiers that are looked up are all different, and each of them but the first is written in a
definition of its own, there is at most one look-up more than there are definitions.
-/
namespace LootScript

namespace Lineage

/-- What an ending says of the last script, after the identifiers that were met before it. -/
def Ending.Holds (source : Source) (met : List Identifier) (last : Script) : Ending → Prop
  | .top => last.base = none
  | .circle reference => last.base = some reference ∧ reference.identifier ∈ met
  | .refused reference failure => last.base = some reference ∧ reference.identifier ∉ met ∧
    source.resolveText (.str reference.raw) = .error failure

/-- The identifier that was looked up in vain, if there is one. -/
def Ending.refusedIdentifiers : Ending → List Identifier
  | .top | .circle _ => []
  | .refused reference _ => [reference.identifier]

/-- The identifiers that are looked up, in their order. -/
def lookedUp (lineage : Lineage) : List Identifier :=
  lineage.ancestors.map Ancestor.identifier ++ lineage.ending.refusedIdentifiers

/-- The lineage of a script above an ancestor that was looked up first. -/
def below (ancestor : Ancestor) (above : Lineage) : Lineage :=
  ⟨ancestor :: above.ancestors, above.ending⟩

@[simp]
theorem lookedUp_top : (Lineage.mk [] .top).lookedUp = [] := rfl

@[simp]
theorem lookedUp_circle (reference : Reference) :
    (Lineage.mk [] (.circle reference)).lookedUp = [] := rfl

@[simp]
theorem lookedUp_refused (reference : Reference) (failure : Failure) :
    (Lineage.mk [] (.refused reference failure)).lookedUp = [reference.identifier] := rfl

@[simp]
theorem lookedUp_below (ancestor : Ancestor) (above : Lineage) :
    (below ancestor above).lookedUp = ancestor.identifier :: above.lookedUp := rfl

end Lineage

namespace Source

variable {source : Source} {script parent last : Script} {reference : Reference}
  {ancestors above : List Ancestor} {met : List Identifier}

/-! ## The steps of a lineage -/

theorem climb_of_base_eq_none (plain : script.base = none) :
    source.climb met script = ⟨[], .top⟩ := by
  rw [climb]
  split
  · rfl
  · next written => simp [plain] at written

theorem climb_of_mem (written : script.base = some reference)
    (old : reference.identifier ∈ met) : source.climb met script = ⟨[], .circle reference⟩ := by
  rw [climb]
  split
  · next plain => simp [written] at plain
  · next other written' =>
    rw [written] at written'
    cases written'
    exact dif_pos old

theorem climb_of_error {failure : Failure} (written : script.base = some reference)
    (new : reference.identifier ∉ met)
    (refused : source.resolveText (.str reference.raw) = .error failure) :
    source.climb met script = ⟨[], .refused reference failure⟩ := by
  rw [resolveText_raw] at refused
  rw [climb]
  split
  · next plain => simp [written] at plain
  · next other written' =>
    rw [written] at written'
    cases written'
    rw [dif_neg new]
    split
    · next found => rw [refused] at found; cases found; rfl
    · next found => rw [refused] at found; cases found

theorem climb_of_ok (written : script.base = some reference)
    (new : reference.identifier ∉ met)
    (resolved : source.resolveText (.str reference.raw) = .ok parent) :
    source.climb met script = .below ⟨reference, parent⟩
      (source.climb (met ++ [reference.identifier]) parent) := by
  rw [resolveText_raw] at resolved
  rw [climb]
  split
  · next plain => simp [written] at plain
  · next other written' =>
    rw [written] at written'
    cases written'
    rw [dif_neg new]
    split
    · next found => rw [resolved] at found; cases found
    · next found => rw [resolved] at found; cases found; rfl

/-- Every lineage is one of three endings, or one more ancestor below a lineage. -/
theorem climb_induction (source : Source) {motive : List Identifier → Script → Prop}
    (top : ∀ met script, script.base = none → source.climb met script = ⟨[], .top⟩ →
      motive met script)
    (circle : ∀ met script reference, script.base = some reference →
      reference.identifier ∈ met → source.climb met script = ⟨[], .circle reference⟩ →
      motive met script)
    (refused : ∀ met script reference failure, script.base = some reference →
      reference.identifier ∉ met → source.resolveText (.str reference.raw) = .error failure →
      source.climb met script = ⟨[], .refused reference failure⟩ → motive met script)
    (below : ∀ met script reference parent, script.base = some reference →
      reference.identifier ∉ met → source.resolveText (.str reference.raw) = .ok parent →
      source.climb met script = .below ⟨reference, parent⟩
        (source.climb (met ++ [reference.identifier]) parent) →
      motive (met ++ [reference.identifier]) parent → motive met script)
    (met : List Identifier) (script : Script) : motive met script := by
  -- What is left of the walk gets shorter with every ancestor.
  induction left : source.stepsLeft met script using Nat.strongRecOn generalizing met script with
  | ind _ ih =>
    cases written : script.base with
    | none => exact top met script written (climb_of_base_eq_none written)
    | some reference =>
      by_cases old : reference.identifier ∈ met
      · exact circle met script reference written old (climb_of_mem written old)
      · cases resolved : source.resolveText (.str reference.raw) with
        | error failure =>
          exact refused met script reference failure written old resolved
            (climb_of_error written old resolved)
        | ok parent =>
          have fewer := stepsLeft_lt written old
            ((resolveText_raw source reference).symm.trans resolved)
          exact below met script reference parent written old resolved
            (climb_of_ok written old resolved)
            (ih _ (left ▸ fewer) (met ++ [reference.identifier]) parent rfl)

/-! ## The walk behind a lineage -/

/-- A lineage is a walk past different identifiers, and its ending is true of the last script. -/
theorem climbs_climb (source : Source) (met : List Identifier) (script : Script)
    (different : met.Nodup) :
    ∃ last, source.Climbs script (source.climb met script).ancestors last ∧
      (met ++ (source.climb met script).ancestors.map Ancestor.identifier).Nodup ∧
      (source.climb met script).ending.Holds source
        (met ++ (source.climb met script).ancestors.map Ancestor.identifier) last := by
  -- What was met before and what is met on the walk are kept apart by the test for circles.
  induction met, script using climb_induction source with
  | top met script plain climbed =>
    rw [climbed]
    exact ⟨script, .here script, by simpa using different, plain⟩
  | circle met script reference written old climbed =>
    rw [climbed]
    exact ⟨script, .here script, by simpa using different, written, by simpa using old⟩
  | refused met script reference failure written new refused climbed =>
    rw [climbed]
    exact ⟨script, .here script, by simpa using different, written, by simpa using new, refused⟩
  | below met script reference parent written new resolved climbed ih =>
    have grown : (met ++ [reference.identifier]).Nodup := by
      rw [← List.concat_eq_append]
      exact different.concat new
    obtain ⟨last, climbs, apart, holds⟩ := ih grown
    rw [climbed]
    rw [List.append_assoc] at apart holds
    exact ⟨last, .up written resolved climbs, apart, holds⟩

/-- A walk past different identifiers is the beginning of the lineage. -/
theorem climb_of_climbs (climbs : source.Climbs script ancestors last)
    (apart : (met ++ ancestors.map Ancestor.identifier).Nodup) :
    source.climb met script =
      ⟨ancestors ++ (source.climb (met ++ ancestors.map Ancestor.identifier) last).ancestors,
        (source.climb (met ++ ancestors.map Ancestor.identifier) last).ending⟩ := by
  -- The identifiers that were met grow with every step of the walk.
  induction climbs generalizing met with
  | here => simp
  | @up script parent last reference above written resolved rest ih =>
    have new : reference.identifier ∉ met := by
      intro old
      have different := (List.nodup_append.mp apart).2.2
      exact different _ old reference.identifier (by simp [Ancestor.identifier]) rfl
    have moved : met ++ (Ancestor.mk reference parent :: above).map Ancestor.identifier =
        met ++ [reference.identifier] ++ above.map Ancestor.identifier := by
      simp [Ancestor.identifier]
    rw [moved] at apart ⊢
    rw [climb_of_ok written new resolved, ih apart]
    rfl

/-- A look-up that is made and fails is the last one, and the walk ends with its failure. -/
theorem ending_of_lookup {id : Identifier} {failure : Failure}
    (asked : id ∈ (source.climb met script).lookedUp) (looked : source.lookup id = .error failure) :
    ∃ reference, (source.climb met script).ending = .refused reference failure := by
  -- Wherever the walk goes on, the look-up has succeeded.
  induction met, script using climb_induction source with
  | top met script plain climbed => simp [climbed] at asked
  | circle met script reference written old climbed => simp [climbed] at asked
  | refused met script reference cause written new refused climbed =>
    rw [climbed] at asked ⊢
    cases List.mem_singleton.mp asked
    rw [resolveText_raw, resolve, looked] at refused
    cases refused
    exact ⟨reference, rfl⟩
  | below met script reference parent written new resolved climbed ih =>
    rw [climbed, Lineage.lookedUp_below] at asked
    rw [climbed]
    rcases List.mem_cons.mp asked with rfl | later
    · rw [resolveText_raw] at resolved
      obtain ⟨definition, found, _⟩ := lookup_of_resolve resolved
      rw [Ancestor.identifier, found] at looked
      cases looked
    · exact ih later

/-! ## How many identifiers are looked up -/

/-- The definitions that a source can give out. -/
def definitions (source : Source) : Set Json :=
  {definition | ∃ id, source.lookup id = .ok (some definition)}

theorem finite_definitions (source : Source) : source.definitions.Finite := by
  obtain ⟨all, covers⟩ := source.finite
  refine Set.Finite.subset (List.finite_toSet all) ?_
  rintro definition ⟨id, found⟩
  exact covers id definition found

/-- Each identifier that is extended by something resolved is extended by a definition. -/
theorem exists_target_of_climbs {id : Identifier} {shown : String}
    (resolved : source.resolve id shown = .ok script) :
    ∀ target ∈ (source.climb met script).lookedUp,
      ∃ definition ∈ source.definitions, target? definition = some target := by
  have written_in {script : Script} {id : Identifier} {shown : String} {reference : Reference}
      (resolved : source.resolve id shown = .ok script) (written : script.base = some reference) :
      ∃ definition ∈ source.definitions, target? definition = some reference.identifier := by
    obtain ⟨definition, found, decoded⟩ := lookup_of_resolve resolved
    exact ⟨definition, ⟨id, found⟩, by simp [target?, decoded, written]⟩
  -- Whatever the walk comes to was resolved itself, so the hypothesis moves up with it.
  induction met, script using climb_induction source generalizing id shown with
  | top met script plain climbed => simp [climbed]
  | circle met script reference written old climbed =>
    simp [climbed]
  | refused met script reference failure written new refused climbed =>
    simpa [climbed] using written_in resolved written
  | below met script reference parent written new further climbed ih =>
    rw [climbed, Lineage.lookedUp_below]
    intro target member
    rcases List.mem_cons.mp member with rfl | later
    · exact written_in resolved written
    · rw [resolveText_raw] at further
      exact ih further target later

theorem nodup_lookedUp (source : Source) (script : Script) :
    (source.lineage script).lookedUp.Nodup := by
  obtain ⟨last, climbs, apart, holds⟩ := climbs_climb source [] script List.nodup_nil
  rw [List.nil_append] at apart holds
  rw [Lineage.lookedUp, lineage]
  cases ending : (source.climb [] script).ending with
  | top => simpa [Lineage.Ending.refusedIdentifiers] using apart
  | circle reference => simpa [Lineage.Ending.refusedIdentifiers] using apart
  | refused reference failure =>
    rw [ending] at holds
    obtain ⟨_, new, _⟩ := holds
    rw [Lineage.Ending.refusedIdentifiers, ← List.concat_eq_append]
    exact apart.concat new

/-- Different identifiers need different definitions to be written in. -/
private theorem length_le_ncard {ids : List Identifier} (different : ids.Nodup)
    (written : ∀ id ∈ ids, ∃ definition ∈ source.definitions, target? definition = some id) :
    ids.length ≤ source.definitions.ncard := by
  have size : (↑(ids.toFinset.image some) : Set (Option Identifier)).ncard = ids.length := by
    rw [Set.ncard_coe_finset, Finset.card_image_of_injective _ (Option.some_injective _),
      List.toFinset_card_of_nodup different]
  have inside : ↑(ids.toFinset.image some) ⊆ target? '' source.definitions := by
    intro target member
    obtain ⟨id, listed, rfl⟩ := Finset.mem_image.mp (Finset.mem_coe.mp member)
    exact written id (List.mem_toFinset.mp listed)
  rw [← size]
  exact (Set.ncard_le_ncard inside (source.finite_definitions.image target?)).trans
    (Set.ncard_image_le source.finite_definitions)

/-- There is at most one look-up more than there are definitions. -/
theorem length_lookedUp_le (source : Source) (script : Script) :
    (source.lineage script).lookedUp.length ≤ source.definitions.ncard + 1 := by
  have different := nodup_lookedUp source script
  rw [lineage] at different ⊢
  generalize [] = met at different ⊢
  cases met, script using climb_induction source with
  | top met script plain climbed => simp [climbed]
  | circle met script reference written old climbed =>
    simp [climbed]
  | refused met script reference failure written new refused climbed =>
    simp [climbed]
  | below met script reference parent written new resolved climbed ih =>
    -- The first look-up is the one more: the others are of identifiers that definitions extend.
    rw [climbed, Lineage.lookedUp_below] at different ⊢
    rw [resolveText_raw] at resolved
    exact Nat.succ_le_succ (length_le_ncard (List.nodup_cons.mp different).2
      (exists_target_of_climbs resolved))

end Source

end LootScript
