import LootScript.Proofs.Identifier
import LootScript.Proofs.Script.Judgement
import LootScript.Proofs.Script.Lineage
import LootScript.Proofs.Script.Overlay

/-!
# The outcome of compiling

Compiling is one descent along the references of a script that lays each script over what is above
it. The descent makes at most one look-up more than there are definitions, and the walk decides its
outcome: it succeeds if the walk comes to an end that extends nothing, it reports a circle if the
walk never ends, and otherwise it fails as the first reference does that does not resolve.
-/
namespace LootScript

/-- An ancestor is laid over what it inherits itself, whatever the outcome above it. -/
theorem Lineage.outcome_below (ancestor : Ancestor) (above : Lineage) :
    (below ancestor above).outcome = above.outcome.map (·.overlay ancestor.script) := by
  obtain ⟨ancestors, ending⟩ := above
  cases ending <;> rfl

namespace Script

/--
Compiling as a descent that remembers the identifiers it has met, with a limit on its look-ups;
`none` when the limit is used up.
-/
def compileWithin (source : Source) :
    Nat → List Identifier → Script → Option (Except Failure Script)
  | limit, met, script => match script.base with
    | none => some (.ok (empty.overlay script))
    | some reference =>
      if reference.identifier ∈ met then
        some (.error (.script .circularExtension (.str reference.raw)))
      else match limit with
        | 0 => none
        | limit + 1 => match source.resolveText (.str reference.raw) with
          | .error failure => some (.error failure)
          | .ok parent =>
            (compileWithin source limit (met ++ [reference.identifier]) parent).map
              fun outcome => outcome.map (·.overlay script)

variable {source : Source} {script parent : Script} {reference : Reference} {failure : Failure}
  {ancestors : List Ancestor}

/-- The descent agrees with the lineage as soon as its limit allows for all look-ups. -/
theorem compileWithin_of_length_le (limit : Nat) (met : List Identifier) (script : Script)
    (enough : (source.climb met script).lookedUp.length ≤ limit) :
    compileWithin source limit met script =
      some ((source.climb met script).outcome.map (·.overlay script)) := by
  -- The limit and the look-ups that are left get smaller together.
  induction met, script using Source.climb_induction source generalizing limit with
  | top met script plain climbed =>
    rw [compileWithin, climbed]
    simp [plain, Lineage.outcome, Lineage.inherited, Except.map]
  | circle met script reference written old climbed =>
    rw [compileWithin, climbed]
    simp [written, old, Lineage.outcome, Except.map]
  | refused met script reference failure written new refused climbed =>
    cases limit with
    | zero => simp [climbed] at enough
    | succ limit =>
      rw [compileWithin, climbed]
      simp [written, new, refused, Lineage.outcome, Except.map]
  | below met script reference parent written new resolved climbed ih =>
    cases limit with
    | zero => simp [climbed] at enough
    | succ limit =>
      rw [climbed, Lineage.lookedUp_below] at enough
      have above := ih limit (Nat.le_of_succ_le_succ enough)
      rw [compileWithin, climbed, Lineage.outcome_below]
      simp only [written, if_neg new, resolved, above, Option.map_some]

/-! ## Endings of the walk -/

/-- A script that extends nothing is compiled already. -/
theorem compile_of_base_eq_none (source : Source) (plain : script.base = none) :
    script.compile source = .ok script := by
  rw [compile, Source.lineage, Source.climb_of_base_eq_none plain]
  simp [Lineage.outcome, Lineage.inherited, Except.map, withoutBase_of_base_eq_none plain]

/-- The walk comes to an end of one of three kinds, and each kind has an outcome of its own. -/
theorem compile_cases (source : Source) (script : Script) :
    (source.ReachesTop script ∧ ∃ result, script.compile source = .ok result) ∨
    (∃ reference, source.FirstRepeated script reference ∧
      script.compile source = .error (.script .circularExtension (.str reference.raw))) ∨
    (∃ reference failure, source.FirstRefused script reference failure ∧
      script.compile source = .error failure) := by
  obtain ⟨last, climbs, different, holds⟩ := Source.climbs_climb source [] script List.nodup_nil
  rw [List.nil_append] at different holds
  rw [compile, Source.lineage, Lineage.outcome]
  cases ending : (source.climb [] script).ending with
  | top =>
    rw [ending] at holds
    exact .inl ⟨⟨_, last, climbs, holds⟩, _, rfl⟩
  | circle reference =>
    rw [ending] at holds
    exact .inr (.inl ⟨reference, ⟨_, last, climbs, holds.1, different, holds.2⟩, rfl⟩)
  | refused reference failure =>
    rw [ending] at holds
    exact .inr (.inr ⟨reference, failure, ⟨_, last, climbs, holds.1, holds.2.2⟩, rfl⟩)

/-- A failure that is no fault of a script is that of a look-up on the walk. -/
theorem lookup_of_compile (failed : script.compile source = .error failure) :
    failure.isScriptFault = true ∨
      ∃ id ∈ (source.lineage script).lookedUp, id.WellFormed ∧
        source.lookup id = .error failure := by
  obtain ⟨last, -, -, holds⟩ := Source.climbs_climb source [] script List.nodup_nil
  rw [compile, map_eq_error_iff, Lineage.outcome] at failed
  rw [Source.lineage] at failed ⊢
  cases ending : (source.climb [] script).ending with
  | top => rw [ending] at failed; cases failed
  | circle reference =>
    rw [ending] at failed
    cases failed
    exact .inl rfl
  | refused reference cause =>
    rw [ending] at failed holds
    cases failed
    obtain ⟨_, _, refused⟩ := holds
    rw [Source.resolveText_raw] at refused
    rcases Source.lookup_of_resolve_eq_error refused with looked | rfl | ⟨_, rfl⟩ | judged
    · refine .inr ⟨_, ?_, Identifier.wellFormed_of_parse reference.parsed, looked⟩
      rw [Lineage.lookedUp, ending]
      exact List.mem_append_right _ (List.mem_singleton_self _)
    · exact .inl rfl
    · exact .inl rfl
    · exact .inl (Failure.isScriptFault_of_isJudgement judged)

/-- Compiling makes nothing of the failure of a look-up. -/
theorem compile_of_lookup {id : Identifier} (asked : id ∈ (source.lineage script).lookedUp)
    (looked : source.lookup id = .error failure) : script.compile source = .error failure := by
  obtain ⟨reference, ending⟩ := Source.ending_of_lookup asked looked
  rw [compile, Lineage.outcome, Source.lineage, ending]
  rfl

/-- The walk ends, goes on for ever or is refused, and the outcome tells which of these it does. -/
theorem exists_compile_iff (source : Source) (script : Script) :
    (∃ result, script.compile source = .ok result) ↔ source.ReachesTop script := by
  rcases compile_cases source script with
    ⟨top, result, compiled⟩ | ⟨reference, repeated, compiled⟩ |
      ⟨reference, failure, refused, compiled⟩
  · simp [compiled, top]
  · have topless : ¬source.ReachesTop script := fun top =>
      Source.not_neverEnds_of_reachesTop top (Source.neverEnds_of_firstRepeated repeated)
    simp [compiled, topless]
  · simp [compiled, Source.not_reachesTop_of_firstRefused refused]

/-- A circle that compiling reports is one that the walk finds, unless the source reports it. -/
theorem compile_circular_iff (silent : source.ReportsNoCircle) (script : Script) :
    (∃ value, script.compile source = .error (.script .circularExtension value)) ↔
      source.NeverEnds script := by
  rcases compile_cases source script with
    ⟨top, result, compiled⟩ | ⟨reference, repeated, compiled⟩ |
      ⟨reference, failure, refused, compiled⟩
  · simp [compiled, Source.not_neverEnds_of_reachesTop top]
  · simp [compiled, Source.neverEnds_of_firstRepeated repeated]
  · have ends := Source.not_neverEnds_of_firstRefused refused
    obtain ⟨_, _, _, _, failed⟩ := refused
    rw [Source.resolveText_raw] at failed
    -- The failure is the resolver's own, so it is none that a walk finds.
    have other (value : Json) : failure ≠ .script .circularExtension value := by
      rintro rfl
      exact Source.resolve_ne_circular silent _ _ value failed
    simp [compiled, ends, other]

/--
Compiling over a source needs at most one look-up more than the source has definitions to give, and
the walk along the references decides its outcome. It succeeds exactly if the walk comes to a script
that extends nothing. It reports a circle exactly if the walk never ends, by the text of the first
reference whose identifier was met before; for this the source must not report circles of its own,
and no store does. Otherwise it fails as the first reference does that does not resolve. Everywhere
on the walk the resolver reads from the text of a reference the identifier by which it is
remembered.
-/
theorem compile_outcome (source : Source) (script : Script) :
    compileWithin source (source.definitions.ncard + 1) [] script =
      some (script.compile source) ∧
    ((∃ result, script.compile source = .ok result) ↔ source.ReachesTop script) ∧
    (source.ReportsNoCircle →
      ((∃ value, script.compile source = .error (.script .circularExtension value)) ↔
        source.NeverEnds script)) ∧
    (∀ files (store : Store), source = store.source files → source.ReportsNoCircle) ∧
    (source.NeverEnds script → ∃ reference, source.FirstRepeated script reference ∧
      script.compile source = .error (.script .circularExtension (.str reference.raw))) ∧
    (¬source.ReachesTop script → ¬source.NeverEnds script →
      ∃ reference failure, source.FirstRefused script reference failure ∧
        script.compile source = .error failure) ∧
    (∀ ancestors last reference, source.Climbs script ancestors last →
      last.base = some reference →
      (Reference.ofJson (.str reference.raw)).map Reference.identifier =
        .ok reference.identifier) := by
  refine ⟨?_, exists_compile_iff source script, fun silent => compile_circular_iff silent script,
    ?_, ?_, ?_, ?_⟩
  · exact compileWithin_of_length_le _ [] script (Source.length_lookedUp_le source script)
  · rintro files store rfl
    exact Store.reportsNoCircle files store
  · intro endless
    rcases compile_cases source script with ⟨top, _⟩ | found | ⟨_, _, refused, _⟩
    · exact absurd endless (Source.not_neverEnds_of_reachesTop top)
    · exact found
    · exact absurd endless (Source.not_neverEnds_of_firstRefused refused)
  · intro topless ends
    rcases compile_cases source script with ⟨top, _⟩ | ⟨_, repeated, _⟩ | found
    · exact absurd top topless
    · exact absurd (Source.neverEnds_of_firstRepeated repeated) ends
    · exact found
  · intro ancestors last reference _ _
    simp [Reference.ofJson, Reference.parse_raw, Except.map]

end Script

end LootScript
