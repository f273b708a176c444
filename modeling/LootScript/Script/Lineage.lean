import LootScript.Extension.Source

/-!
# Lineages

Following the `extend` references of a script upwards passes its ancestors, nearest first. The walk
ends at a script that extends nothing, at a reference whose identifier was met before, or at a
reference that does not resolve. Every reference after the first one is written in a definition of
the source, so each step uses up one of finitely many identifiers and the walk always ends.

Compiling a script is a matter of its lineage alone: if the walk reaches the top, the ancestors are
laid over one another from the top down, the script itself last.
-/
namespace LootScript

/-- A reference that was followed, and the script that it led to. -/
structure Ancestor where
  reference : Reference
  script : Script

inductive Lineage.Ending
  /-- The last script extends nothing. -/
  | top
  /-- The identifier of this reference was met before. -/
  | circle (reference : Reference)
  | refused (reference : Reference) (failure : Failure)

structure Lineage where
  ancestors : List Ancestor
  ending : Lineage.Ending

namespace Source

/-! ## Why the walk ends -/

/-- The identifier that a definition extends, if it is a script that extends one. -/
def target? (definition : Json) : Option Identifier :=
  match Script.ofJson definition with
  | .ok script => script.base.map Reference.identifier
  | .error _ => none

/-- The identifiers that the definitions of a source extend. -/
noncomputable def targets (source : Source) : List Identifier :=
  source.finite.choose.filterMap target?

theorem mem_targets {source : Source} {id : Identifier} {shown : String} {script : Script}
    {reference : Reference} (resolved : source.resolve id shown = .ok script)
    (base : script.base = some reference) : reference.identifier ∈ source.targets := by
  obtain ⟨definition, found, decoded⟩ := lookup_of_resolve resolved
  refine List.mem_filterMap.mpr ⟨definition, source.finite.choose_spec id definition found, ?_⟩
  simp [target?, decoded, base]

/-- The targets that have not been met. -/
noncomputable def unmet (source : Source) (met : List Identifier) : List Identifier :=
  source.targets.filter (· ∉ met)

theorem unmet_append (source : Source) (met : List Identifier) (id : Identifier) :
    source.unmet (met ++ [id]) = (source.unmet met).filter (· ≠ id) := by
  simp [unmet, List.filter_filter, Bool.and_comm]

/--
How many steps a walk can still take from a script, at most. Only the first reference of a walk may
lie outside the targets; it counts once more.
-/
noncomputable def stepsLeft (source : Source) (met : List Identifier) (script : Script) : Nat :=
  match script.base with
  | none => 0
  | some reference =>
    if reference.identifier ∈ source.targets then (source.unmet met).length
    else (source.unmet met).length + 1

theorem stepsLeft_lt {source : Source} {met : List Identifier} {script parent : Script}
    {reference : Reference} (base : script.base = some reference)
    (new : reference.identifier ∉ met)
    (resolved : source.resolve reference.identifier reference.raw = .ok parent) :
    source.stepsLeft (met ++ [reference.identifier]) parent < source.stepsLeft met script := by
  have fewer : source.stepsLeft (met ++ [reference.identifier]) parent ≤
      ((source.unmet met).filter (· ≠ reference.identifier)).length := by
    unfold stepsLeft
    split
    · exact Nat.zero_le _
    · next above written =>
      rw [if_pos (mem_targets resolved written)]
      exact Nat.le_of_eq (congrArg List.length (unmet_append source met reference.identifier))
  refine Nat.lt_of_le_of_lt fewer ?_
  simp only [stepsLeft, base]
  split
  · next target =>
    rw [List.length_filter_lt_length_iff_exists]
    exact ⟨reference.identifier, by simp [unmet, target, new], by simp⟩
  · exact Nat.lt_succ_of_le (List.length_filter_le _ _)

/-! ## The walk -/

set_option linter.unusedVariables false in
/-- Walks up from a script, given the identifiers that were met on the way to it. -/
def climb (source : Source) (met : List Identifier) (script : Script) : Lineage :=
  match base : script.base with
  | none => ⟨[], .top⟩
  | some reference =>
    -- A circle is noticed before its base script is looked up again.
    if new : reference.identifier ∈ met then ⟨[], .circle reference⟩
    else match resolved : source.resolve reference.identifier reference.raw with
      | .error failure => ⟨[], .refused reference failure⟩
      | .ok parent =>
        let above := climb source (met ++ [reference.identifier]) parent
        ⟨⟨reference, parent⟩ :: above.ancestors, above.ending⟩
termination_by source.stepsLeft met script
decreasing_by exact stepsLeft_lt base new resolved

def lineage (source : Source) (script : Script) : Lineage := source.climb [] script

end Source

namespace Lineage

/-- The ancestors laid over one another, the topmost first. -/
def inherited (lineage : Lineage) : Script :=
  lineage.ancestors.foldr (fun ancestor below => below.overlay ancestor.script) .empty

/-- What a script inherits, or why it cannot be told. -/
def outcome (lineage : Lineage) : Except Failure Script :=
  match lineage.ending with
  | .top => .ok lineage.inherited
  | .circle reference => .error (.script .circularExtension (.str reference.raw))
  | .refused _ failure => .error failure

end Lineage

namespace Script

/-- The script with all that it inherits. Its removals are collected, not applied. -/
def compile (script : Script) (source : Source) : Except Failure Script :=
  (source.lineage script).outcome.map (·.overlay script)

end Script

end LootScript
