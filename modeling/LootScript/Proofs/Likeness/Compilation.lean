import LootScript.Proofs.Extension.Chain
import LootScript.Proofs.Likeness.Script
import LootScript.Proofs.Script.Compilation

/-!
# Compiling like scripts

Over like sources, which give like definitions for every identifier, like scripts resolve, compile
and combine alike. Registries are such sources if their entries are alike.
-/
namespace LootScript

variable {like : Likeness} {one other : Source} {met : List Identifier}
  {script script' : Script} {scripts scripts' : List Script}

def Source.Like (like : Likeness) (one other : Source) : Prop :=
  ∀ id, Alike like.failure (Option.Rel (Json.LikeScript like)) (one.lookup id) (other.lookup id)

/-! ## Resolving -/

namespace Source

theorem resolve_alike (alike : one.Like like other) (id : Identifier) {shown shown' : String}
    (texts : like.text shown shown') :
    Alike like.failure (Script.Like like) (one.resolve id shown) (other.resolve id shown') := by
  unfold resolve
  obtain ⟨found, found', looked, looked', same⟩ | ⟨f, g, failed, failed', same⟩ :=
    (alike id).cases_of
  · simp only [looked, looked']
    cases same with
    | none => exact .error (like.script .unknownExtension texts)
    | some definitions =>
      dsimp only
      obtain ⟨shape, shape', read, read', shapes⟩ | ⟨f, g, failed, failed', same⟩ :=
        (ScriptShape.ofJson_alike definitions).cases_of
      · simp only [read, read']
        exact Script.ofShape_alike shapes
      · simp only [failed, failed']
        exact .error (like.scriptBy .unreadableExtension texts same)
  · simp only [failed, failed']
    exact .error same

theorem resolveText_alike (alike : one.Like like other) {raw raw' : String}
    (texts : like.text raw raw') :
    Alike like.failure (Script.Like like) (one.resolveText (.str raw))
      (other.resolveText (.str raw')) := by
  refine (Reference.parse_alike texts).bind fun reference reference' same => ?_
  rw [Reference.identifier_eq same]
  exact resolve_alike alike reference.identifier same

/-! ## Walking -/

theorem exists_base (alike : script.Like like script') {reference : Reference}
    (written : script.base = some reference) :
    ∃ reference', script'.base = some reference' ∧ like.text reference.raw reference'.raw ∧
      reference'.identifier = reference.identifier := by
  have base := alike.base
  rw [written] at base
  generalize script'.base = written' at base
  cases base with
  | some texts => exact ⟨_, rfl, texts, Reference.identifier_eq texts⟩

theorem base_eq_none (alike : script.Like like script') (plain : script.base = none) :
    script'.base = none := by
  have base := alike.base
  rw [plain] at base
  generalize script'.base = written' at base ⊢
  cases base
  rfl

/-- The two walks meet the same identifiers, so that they end in the same way. -/
theorem outcome_climb_alike (alike : one.Like like other) (scripts : script.Like like script') :
    Alike like.failure (Script.Like like) (one.climb met script).outcome
      (other.climb met script').outcome := by
  induction met, script using climb_induction one generalizing script' with
  | top met script plain climbed =>
    rw [climbed, climb_of_base_eq_none (base_eq_none scripts plain)]
    exact .ok Script.like_empty
  | circle met script reference written old climbed =>
    obtain ⟨reference', written', texts, same⟩ := exists_base scripts written
    rw [climbed, climb_of_mem written' (by rwa [same])]
    exact .error (like.script .circularExtension texts)
  | refused met script reference failure written new refused climbed =>
    obtain ⟨reference', written', texts, same⟩ := exists_base scripts written
    have resolved := resolveText_alike alike texts
    rw [refused] at resolved
    obtain ⟨_, _, absurd, _⟩ | ⟨_, failure', failed, refused', failures⟩ := resolved.cases_of
    · cases absurd
    · cases failed
      rw [climbed, climb_of_error written' (by rwa [same]) refused']
      exact .error failures
  | below met script reference parent written new found climbed ih =>
    obtain ⟨reference', written', texts, same⟩ := exists_base scripts written
    have resolved := resolveText_alike alike texts
    rw [found] at resolved
    obtain ⟨_, parent', read, found', parents⟩ | ⟨_, _, absurd, _⟩ := resolved.cases_of
    · cases read
      rw [climbed, climb_of_ok written' (by rwa [same]) found', same, Lineage.outcome_below,
        Lineage.outcome_below]
      exact (ih parents).map fun _ _ above => above.overlay parents
    · cases absurd

end Source

/-! ## Compiling and combining -/

namespace Script

theorem compile_alike (alike : one.Like like other) (scripts : script.Like like script') :
    Alike like.failure (Like like) (script.compile one) (script'.compile other) :=
  (Source.outcome_climb_alike alike scripts).map fun _ _ inherited => inherited.overlay scripts

theorem atPosition_alike {f g : Failure} (index : Nat) (failures : like.failure f g) :
    like.failure (atPosition index f) (atPosition index g) := by
  unfold atPosition
  rw [like.isScriptFault failures]
  split
  · exact like.combination index failures
  · exact failures

theorem compileAll_alike (alike : one.Like like other) (index : Nat)
    (each : List.Forall₂ (Like like) scripts scripts') :
    Alike like.failure (List.Forall₂ (Like like)) (compileAll one index scripts)
      (compileAll other index scripts') := by
  induction each generalizing index with
  | nil => exact .ok .nil
  | @cons script script' rest rest' first _ ih =>
    rw [compileAll, compileAll]
    obtain ⟨compiled, compiled', done, done', same⟩ | ⟨f, g, failed, failed', same⟩ :=
      (compile_alike alike first).cases_of
    · simp only [done, done']
      exact (ih (index + 1)).map fun _ _ others => .cons same others
    · simp only [failed, failed']
      exact .error (atPosition_alike index same)

theorem overlayAll_alike (each : List.Forall₂ (Like like) scripts scripts') :
    (overlayAll scripts).Like like (overlayAll scripts') := by
  have onto {start start' : Script} (starts : start.Like like start') :
      (scripts.foldl overlay start).Like like (scripts'.foldl overlay start') := by
    induction each generalizing start start' with
    | nil => exact starts
    | cons first _ ih => exact ih (starts.overlay first)
  exact onto like_empty

theorem combine_alike (alike : one.Like like other)
    (each : List.Forall₂ (Like like) scripts scripts') :
    Alike like.failure (Like like) (combine scripts one) (combine scripts' other) :=
  (compileAll_alike alike 0 each).map fun _ _ compiled => (overlayAll_alike compiled).applyRemovals

end Script

/-! ## Registries -/

namespace Registry

/-- The same identifiers in the same order, with like definitions. -/
abbrev Like (like : Likeness) (one other : Registry) : Prop :=
  OrderedMap.Related (Json.LikeScript like) one other

theorem insertEntries_alike {entries entries' : List (String × Json)} {one other : Registry}
    (alike : List.Forall₂ (fun entry entry' => like.text entry.1 entry'.1 ∧
      entry.2.LikeScript like entry'.2) entries entries') (before : one.Like like other) :
    Alike like.failure (Like like) (insertEntries one entries) (insertEntries other entries') := by
  induction alike generalizing one other with
  | nil => exact .ok before
  | @cons entry entry' rest rest' first _ ih =>
    obtain ⟨key, definition⟩ := entry
    obtain ⟨key', definition'⟩ := entry'
    rw [insertEntries, insertEntries]
    obtain ⟨id, _, read, read', rfl⟩ | ⟨f, g, failed, failed', same⟩ :=
      (like.parse first.1).cases_of
    · simp only [read, read']
      exact ih (before.insert id first.2)
    · simp only [failed, failed']
      exact .error same

theorem ofEntries_alike {entries entries' : List (String × Json)}
    (alike : List.Forall₂ (fun entry entry' => like.text entry.1 entry'.1 ∧
      entry.2.LikeScript like entry'.2) entries entries') :
    Alike like.failure (Like like) (ofEntries entries) (ofEntries entries') :=
  insertEntries_alike alike OrderedMap.related_empty

end Registry

theorem Json.likeScript_null_iff {value other : Json} (alike : value.LikeScript like other) :
    value = .null ↔ other = .null := by
  cases value with
  | obj fields =>
    obtain ⟨fields', rfl, _⟩ := alike
    simp
  | _ =>
    cases alike
    simp

theorem Store.present_alike {found found' : Option Json}
    (alike : Option.Rel (Json.LikeScript like) found found') :
    Option.Rel (Json.LikeScript like) (present found) (present found') := by
  cases alike with
  | none => exact .none
  | @some value other definitions =>
    have null := Json.likeScript_null_iff definitions
    by_cases absent : value = .null
    · rw [absent, null.mp absent]
      exact .none
    · rw [present_of_ne_null absent, present_of_ne_null (mt null.mpr absent)]
      exact .some definitions

theorem Store.source_alike {one other : Registry} (alike : one.Like like other)
    (files files' : FileTree) :
    ((Store.registry one).source files).Like like ((Store.registry other).source files') :=
  fun id => .ok (present_alike (alike.find? id))

end LootScript
