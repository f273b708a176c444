import LootScript.Proofs.Script.Overlay
import Mathlib.Logic.Function.Basic

/-!
# Scripts that absorb one another

Scripts that are at hand under names of their own can absorb one another. This changes the script
that absorbs and no other one. It comes to the same whether a script absorbs two others one after
the other, or the second is absorbed by the first before, as long as it is none of the two: a script
that absorbs itself has its removals twice.
-/
namespace LootScript

namespace Script

variable {ν : Type} [DecidableEq ν] {scripts : ν → Script} {into other : ν}

/-- Of the scripts with these names, one absorbs another. -/
def absorbInto (scripts : ν → Script) (into other : ν) : ν → Script :=
  Function.update scripts into ((scripts into).absorb (scripts other))

@[simp]
theorem absorbInto_self :
    absorbInto scripts into other into = (scripts into).absorb (scripts other) :=
  Function.update_self _ _ _

theorem absorbInto_of_ne {name : ν} (different : name ≠ into) :
    absorbInto scripts into other name = scripts name :=
  Function.update_of_ne different _ _

theorem absorbInto_assoc {a b c : ν} (apart : a ≠ b) (apart' : a ≠ c) :
    absorbInto (absorbInto scripts b c) a b a = absorbInto (absorbInto scripts a b) a c a := by
  -- The first step leaves `a` as it is on the left, and `c` on the right.
  calc absorbInto (absorbInto scripts b c) a b a
    _ = (scripts a).absorb ((scripts b).absorb (scripts c)) := by
      rw [absorbInto_self, absorbInto_self, absorbInto_of_ne apart]
    _ = ((scripts a).absorb (scripts b)).absorb (scripts c) := (absorb_assoc _ _ _).symm
    _ = absorbInto (absorbInto scripts a b) a c a := by
      rw [absorbInto_self, absorbInto_self, absorbInto_of_ne apart'.symm]

/--
Absorbing two scripts one after the other, and absorbing the first when it has absorbed the second,
make the same script, down to the order of its pools. An empty script adds nothing, and has the
pools and the removals of what it absorbs. A script that absorbs keeps its kind and what it extends,
and every other script stays as it is.
-/
theorem absorbInto_laws (scripts : ν → Script) :
    (∀ a b c, a ≠ b → a ≠ c →
      absorbInto (absorbInto scripts b c) a b a = absorbInto (absorbInto scripts a b) a c a) ∧
    (∀ a e, scripts e = empty →
      absorbInto scripts a e a = scripts a ∧
      (absorbInto scripts e a e).pools = (scripts a).pools ∧
      (absorbInto scripts e a e).removals = (scripts a).removals) ∧
    ∀ into other,
      (absorbInto scripts into other into).kind = (scripts into).kind ∧
      (absorbInto scripts into other into).base = (scripts into).base ∧
      ∀ name, name ≠ into → absorbInto scripts into other name = scripts name := by
  refine ⟨fun a b c => absorbInto_assoc, fun a e nothing => ?_, fun into other => ?_⟩
  · rw [absorbInto_self, absorbInto_self, nothing]
    exact ⟨absorb_empty _, pools_empty_absorb _, rfl⟩
  · rw [absorbInto_self]
    exact ⟨rfl, rfl, fun name => absorbInto_of_ne⟩

/-- Three scripts that share pools two by two, each with drops of its own kind, and an empty one. -/
theorem absorbInto_laws_of_overlap :
    let pools (kind : DropKind) (names : List String) : OrderedMap Identifier Drop :=
      .ofList (names.map fun name => (⟨"minecraft", name⟩, ⟨kind, none, none, [], []⟩))
    let scripts : Nat → Script
      | 0 => ⟨some "a", none, pools .item ["x", "y"], [⟨"minecraft", "z"⟩]⟩
      | 1 => ⟨some "b", none, pools .tag ["z", "y"], [⟨"minecraft", "x"⟩]⟩
      | 2 => ⟨some "c", none, pools .empty ["w", "x"], [⟨"minecraft", "z"⟩]⟩
      | _ => empty
    let nested := absorbInto (absorbInto scripts 1 2) 0 1
    nested 0 = absorbInto (absorbInto scripts 0 1) 0 2 0 ∧
      (nested 0).pools.entries.map (fun pool => (pool.1.name, pool.2.kind)) =
        [("x", .empty), ("y", .tag), ("z", .tag), ("w", .empty)] ∧
      absorbInto scripts 0 3 0 = scripts 0 ∧
      (absorbInto scripts 3 0 3).pools = (scripts 0).pools ∧
      absorbInto scripts 0 1 1 = scripts 1 := by
  intro pools scripts nested
  obtain ⟨associative, identity, others⟩ := absorbInto_laws scripts
  have whole : nested 0 = absorbInto (absorbInto scripts 0 1) 0 2 0 :=
    associative 0 1 2 (by decide) (by decide)
  obtain ⟨added, taken, -⟩ := identity 0 3 rfl
  exact ⟨whole, by decide +kernel, added, taken, (others 0 1).2.2 1 (by decide)⟩

end Script

end LootScript
