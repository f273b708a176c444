import LootScript.Script.Lineage

/-!
# Walking up from a script

The walk along the `extend` references is said here without any test for circles: a script climbs to
another one if every reference on the way resolves. A lineage is such a walk cut short, either where
nothing is extended, or at a reference that does not resolve, or at the first identifier that comes
again. Whether an identifier resolves does not depend on how it is written, so a walk that meets an
identifier again can go on in the same way for ever.
-/
namespace LootScript

namespace Ancestor

/-- The identifier under which an ancestor was looked up. -/
def identifier (ancestor : Ancestor) : Identifier := ancestor.reference.identifier

end Ancestor

namespace Source

variable {source : Source} {script parent last : Script} {reference : Reference}
  {ancestors above : List Ancestor} {met : List Identifier}

/-! ## The walk -/

/-- From a script, past its ancestors in their order, to the last one of them. -/
inductive Climbs (source : Source) : Script → List Ancestor → Script → Prop
  | here (script : Script) : Climbs source script [] script
  | up {script parent last : Script} {reference : Reference} {above : List Ancestor}
      (written : script.base = some reference)
      (resolved : source.resolveText (.str reference.raw) = .ok parent)
      (rest : Climbs source parent above last) :
      Climbs source script (⟨reference, parent⟩ :: above) last

/-- The walk comes to a script that extends nothing. -/
def ReachesTop (source : Source) (script : Script) : Prop :=
  ∃ ancestors last, source.Climbs script ancestors last ∧ last.base = none

/-- Every reference resolves, and there is always another one. -/
def NeverEnds (source : Source) (script : Script) : Prop :=
  ∀ steps, ∃ ancestors last, source.Climbs script ancestors last ∧ ancestors.length = steps

/-- The first reference of the walk whose identifier was met on the way to it. -/
def FirstRepeated (source : Source) (script : Script) (reference : Reference) : Prop :=
  ∃ ancestors last, source.Climbs script ancestors last ∧ last.base = some reference ∧
    (ancestors.map Ancestor.identifier).Nodup ∧
    reference.identifier ∈ ancestors.map Ancestor.identifier

/-- The first reference of the walk that does not resolve, and the reason. -/
def FirstRefused (source : Source) (script : Script) (reference : Reference)
    (failure : Failure) : Prop :=
  ∃ ancestors last, source.Climbs script ancestors last ∧ last.base = some reference ∧
    source.resolveText (.str reference.raw) = .error failure

/-- There is no step from a script that extends nothing, or something that does not resolve. -/
def Stops (source : Source) (script : Script) : Prop :=
  ∀ reference parent, script.base = some reference →
    source.resolveText (.str reference.raw) ≠ .ok parent

theorem stops_of_base_eq_none (plain : script.base = none) : source.Stops script := by
  intro reference parent written
  rw [plain] at written
  cases written

theorem stops_of_error {failure : Failure} (written : script.base = some reference)
    (refused : source.resolveText (.str reference.raw) = .error failure) :
    source.Stops script := by
  intro other parent written' resolved
  rw [written] at written'
  cases written'
  rw [refused] at resolved
  cases resolved

/-- How an identifier is written matters only to the failures. -/
theorem resolve_eq_ok_of_eq_ok {id : Identifier} {shown : String}
    (resolved : source.resolve id shown = .ok script) (other : String) :
    source.resolve id other = .ok script := by
  unfold resolve at resolved ⊢
  cases looked : source.lookup id with
  | error failure => simp [looked] at resolved
  | ok found =>
    cases found with
    | none => simp [looked] at resolved
    | some definition =>
      simp only [looked] at resolved ⊢
      cases formed : ScriptShape.ofJson definition with
      | error cause => simp [formed] at resolved
      | ok shape =>
        simp only [formed] at resolved ⊢
        exact resolved

namespace Climbs

theorem trans {middle : Script} (first : source.Climbs script ancestors middle)
    (second : source.Climbs middle above last) :
    source.Climbs script (ancestors ++ above) last := by
  induction first with
  | here => exact second
  | up written resolved _ ih => exact .up written resolved (ih second)

/-- Every ancestor is what some identifier resolves to. -/
theorem exists_resolve (climbs : source.Climbs script ancestors last) :
    ∀ ancestor ∈ ancestors, ∃ id shown, source.resolve id shown = .ok ancestor.script := by
  induction climbs with
  | here => simp
  | @up script parent last reference above written resolved rest ih =>
    intro ancestor member
    rcases List.mem_cons.mp member with rfl | later
    · rw [resolveText_raw] at resolved
      exact ⟨reference.identifier, reference.raw, resolved⟩
    · exact ih ancestor later

/-- Of two walks from one script, the longer one goes on from where the other one stops. -/
theorem exists_append {last' : Script} {ancestors' : List Ancestor}
    (short : source.Climbs script ancestors last) (long : source.Climbs script ancestors' last')
    (shorter : ancestors.length ≤ ancestors'.length) :
    ∃ rest, source.Climbs last rest last' ∧ ancestors' = ancestors ++ rest := by
  -- Both walks take the same steps, since a reference resolves to one script only.
  induction short generalizing ancestors' with
  | here => exact ⟨ancestors', long, rfl⟩
  | up written resolved _ ih =>
    cases long with
    | here => simp at shorter
    | up written' resolved' tail =>
      rw [written] at written'
      cases written'
      rw [resolved] at resolved'
      cases resolved'
      obtain ⟨rest, climbs, same⟩ := ih tail (Nat.le_of_succ_le_succ shorter)
      exact ⟨rest, climbs, congrArg (_ :: ·) same⟩

/-- No walk goes on from where another one stops. -/
theorem length_le_of_stops {last' : Script} {ancestors' : List Ancestor}
    (climbs : source.Climbs script ancestors last) (stops : source.Stops last)
    (other : source.Climbs script ancestors' last') : ancestors'.length ≤ ancestors.length := by
  refine Nat.le_of_not_lt fun longer => ?_
  obtain ⟨rest, tail, same⟩ := climbs.exists_append other (Nat.le_of_lt longer)
  cases tail with
  | here => simp [same] at longer
  | up written resolved _ => exact stops _ _ written resolved

/-- All walks from a script that stop, stop at the same script. -/
theorem last_eq_of_stops {last' : Script} {ancestors' : List Ancestor}
    (climbs : source.Climbs script ancestors last) (stops : source.Stops last)
    (other : source.Climbs script ancestors' last') (stops' : source.Stops last') :
    last = last' := by
  obtain ⟨rest, tail, same⟩ := climbs.exists_append other (other.length_le_of_stops stops' climbs)
  cases tail with
  | here => rfl
  | up written resolved _ => exact absurd resolved (stops _ _ written)

/-- The walk on the way to one of its ancestors, and from there on. -/
theorem split_of_mem (climbs : source.Climbs script ancestors last) {id : Identifier}
    (met : id ∈ ancestors.map Ancestor.identifier) :
    ∃ parent above, (∀ shown, source.resolve id shown = .ok parent) ∧
      source.Climbs parent above last := by
  induction climbs with
  | here => simp at met
  | up written resolved rest ih =>
    rcases List.mem_cons.mp met with rfl | later
    · rw [resolveText_raw] at resolved
      exact ⟨_, _, resolve_eq_ok_of_eq_ok resolved, rest⟩
    · exact ih later

end Climbs

theorem not_neverEnds_of_stops (climbs : source.Climbs script ancestors last)
    (stops : source.Stops last) : ¬source.NeverEnds script := by
  intro endless
  -- One step more than the walk that stops is one too many.
  obtain ⟨ancestors', last', further, longer⟩ := endless (ancestors.length + 1)
  have bounded := climbs.length_le_of_stops stops further
  omega

theorem not_neverEnds_of_reachesTop (top : source.ReachesTop script) :
    ¬source.NeverEnds script := by
  obtain ⟨ancestors, last, climbs, plain⟩ := top
  exact not_neverEnds_of_stops climbs (stops_of_base_eq_none plain)

theorem not_neverEnds_of_firstRefused {failure : Failure}
    (refused : source.FirstRefused script reference failure) : ¬source.NeverEnds script := by
  obtain ⟨ancestors, last, climbs, written, failed⟩ := refused
  exact not_neverEnds_of_stops climbs (stops_of_error written failed)

theorem not_reachesTop_of_firstRefused {failure : Failure}
    (refused : source.FirstRefused script reference failure) : ¬source.ReachesTop script := by
  rintro ⟨ancestors, last, climbs, plain⟩
  obtain ⟨ancestors', last', climbs', written, failed⟩ := refused
  have same := climbs.last_eq_of_stops (stops_of_base_eq_none plain) climbs'
    (stops_of_error written failed)
  rw [same, written] at plain
  cases plain

/-- A walk on which an identifier comes again never ends. -/
theorem neverEnds_of_firstRepeated (repeated : source.FirstRepeated script reference) :
    source.NeverEnds script := by
  obtain ⟨ancestors, last, climbs, written, _, repeated⟩ := repeated
  obtain ⟨parent, loop, resolved, back⟩ := climbs.split_of_mem repeated
  -- Whatever still climbs to the last script can take a step and still climb to it.
  have step {start : Script} {way : List Ancestor} (there : source.Climbs start way last) :
      ∃ ancestor next way', source.Climbs start [ancestor] next ∧
        source.Climbs next way' last := by
    cases there with
    | here =>
      have again : source.resolveText (.str reference.raw) = .ok parent := by
        rw [resolveText_raw]
        exact resolved reference.raw
      exact ⟨⟨reference, parent⟩, parent, loop, .up written again (.here parent), back⟩
    | up written' resolved' rest =>
      exact ⟨_, _, _, .up written' resolved' (.here _), rest⟩
  have steps (count : Nat) : ∀ {start : Script} {way : List Ancestor},
      source.Climbs start way last →
        ∃ ancestors last', source.Climbs start ancestors last' ∧ ancestors.length = count := by
    induction count with
    | zero => exact fun {start} _ _ => ⟨[], start, .here start, rfl⟩
    | succ count ih =>
      intro start way there
      obtain ⟨ancestor, next, way', one, on⟩ := step there
      obtain ⟨ancestors, last', rest, length⟩ := ih on
      exact ⟨[ancestor] ++ ancestors, last', one.trans rest, by simp [length]⟩
  exact fun count => steps count climbs

end Source

end LootScript
