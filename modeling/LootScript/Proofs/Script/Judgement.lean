import LootScript.Extension.Store
import LootScript.Proofs.FileTree
import LootScript.Proofs.Script.Order

/-!
# Failures behind a reference

Two kinds of failures can come out of resolving a reference: a script's content is judged to be
wrong, or its definition cannot be had. Neither kind says anything about circles, so a circle that
compiling reports is one that the walk has found.
-/
namespace LootScript

namespace Failure

/-- A fault that judging the content of a script finds. -/
def isJudgement : Failure → Bool
  | .script .identifierCharacters _ | .script .identifierColons _ | .script .unknownDropType _
  | .script .unsafeFlag _ | .script .dropLayout _ => true
  | .scriptBy .dropType _ _ | .scriptBy .extension _ _ => true
  | _ => false

/-- A refusal that no layer has made a failure of its own of. -/
def isRefusal : Failure → Bool
  | .nullCharacter | .system => true
  | _ => false

/-- A reason for which a store gives no definition. -/
def isWithheld : Failure → Bool
  | .scriptBy .unreadableExtension _ _ | .nullCharacter | .system => true
  | _ => false

end Failure

variable {failure : Failure}

/-! ## Judging -/

theorem Failure.isScriptFault_of_isJudgement (judged : failure.isJudgement = true) :
    failure.isScriptFault = true := by
  cases failure <;> first | rfl | cases judged

theorem Failure.isJudgement_of_isDropFault (found : failure.isDropFault = true) :
    failure.isJudgement = true := by
  unfold isDropFault at found
  split at found <;> first | rfl | cases found

theorem Identifier.isJudgement_of_parse {text : String}
    (failed : Identifier.parse text = .error failure) : failure.isJudgement = true := by
  rcases eq_of_parse_eq_error failed with rfl | rfl <;> rfl

theorem Reference.isJudgement_of_parse {raw : String}
    (failed : Reference.parse raw = .error failure) : failure.isJudgement = true := by
  unfold Reference.parse at failed
  split at failed <;> cases failed
  rfl

theorem Script.isJudgement_of_ofShape {shape : ScriptShape}
    (failed : Script.ofShape shape = .error failure) : failure.isJudgement = true := by
  rw [(reports_ofShape shape).eq_error_iff] at failed
  rcases List.mem_append.mp (List.mem_of_head? failed) with inPools | behind
  · obtain ⟨pool, _, found⟩ := List.mem_flatMap.mp inPools
    rcases List.mem_append.mp found with ofDrop | ofKey
    · exact Failure.isJudgement_of_isDropFault (Drop.isDropFault_of_ofShape (mem_faultOf.mp ofDrop))
    · exact Identifier.isJudgement_of_parse (mem_faultOf.mp ofKey)
  · rcases List.mem_append.mp behind with inBase | inRemovals
    · obtain ⟨raw, _, found⟩ := List.mem_flatMap.mp inBase
      exact Reference.isJudgement_of_parse (mem_faultOf.mp found)
    · obtain ⟨text, _, found⟩ := List.mem_flatMap.mp inRemovals
      exact Identifier.isJudgement_of_parse (mem_faultOf.mp found)

/-! ## Looking up -/

theorem Failure.isScriptFault_of_isRefusal (refusal : failure.isRefusal = true) :
    failure.isScriptFault = false := by
  cases failure <;> first | rfl | cases refusal

theorem FileTree.isRefusal_of_resolve {files : FileTree} {path : Path}
    (failed : files.resolve path = .error failure) : failure.isRefusal = true := by
  unfold FileTree.resolve at failed
  split at failed
  · rw [map_eq_error_iff, FileTree.absolute] at failed
    split at failed
    · cases failed
    · split at failed
      · cases failed
      · cases failed; rfl
  · cases failed; rfl

theorem FileTree.isRefusal_of_read {files : FileTree} {path : Path}
    (failed : files.read path = .error failure) : failure.isRefusal = true := by
  unfold FileTree.read at failed
  split at failed
  · cases failed
  · cases failed
    unfold FileTree.refusal
    split <;> rfl

namespace ScriptDirectory

variable {files : FileTree} {root : Path} {id : Identifier}

theorem isRefusal_of_firstFile? {paths : List Path}
    (failed : firstFile? files paths = .error failure) : failure.isRefusal = true := by
  induction paths with
  | nil => cases failed
  | cons path rest ih =>
    rw [firstFile?, bind_eq_error_iff] at failed
    rcases failed with refused | ⟨isFile, _, failed⟩
    · rw [FileTree.eq_system_of_isFile refused]
      rfl
    · cases isFile with
      | true => cases failed
      | false => exact ih failed

theorem isRefusal_of_pathFor (failed : pathFor files root id = .error failure) :
    failure.isRefusal = true := by
  unfold pathFor at failed
  split at failed
  · next refused => cases failed; exact FileTree.isRefusal_of_resolve refused
  · split at failed
    · cases failed; rfl
    · split at failed
      · exact isRefusal_of_firstFile? failed
      · cases failed

/-- What is found but not read is reported; a search that fails is not. -/
theorem pathFor_of_lookup (failed : lookup files root id = .error failure) :
    (∃ cause, failure = .scriptBy .unreadableExtension (.str id.text) cause ∧
        (cause = .notJson ∨ cause.isRefusal = true)) ∨
      pathFor files root id = .error failure := by
  simp only [lookup] at failed
  split at failed
  · next searched => cases failed; exact .inr searched
  · cases failed
  · split at failed
    · next unread =>
      cases failed
      exact .inl ⟨_, rfl, .inr (FileTree.isRefusal_of_read unread)⟩
    · split at failed
      · cases failed; exact .inl ⟨_, rfl, .inl rfl⟩
      · cases failed

end ScriptDirectory

namespace Store

mutual

/-- The roots of the directories that a store may search. -/
def roots : Store → List Path
  | .registry _ => []
  | .directory root => [root]
  | .chain stores => rootsOfAll stores

def rootsOfAll : List Store → List Path
  | [] => []
  | store :: rest => roots store ++ rootsOfAll rest

end

mutual

/-- A look-up fails in one of the directories: on a file that is there, or on the way to it. -/
theorem pathFor_of_lookup {files : FileTree} {id : Identifier} : (store : Store) →
    store.lookup files id = .error failure →
      (∃ cause, failure = .scriptBy .unreadableExtension (.str id.text) cause ∧
          (cause = .notJson ∨ cause.isRefusal = true)) ∨
        ∃ root ∈ store.roots, ScriptDirectory.pathFor files root id = .error failure
  | .registry definitions, failed => by cases failed
  | .directory root, failed => by
    rw [lookup, map_eq_error_iff] at failed
    exact (ScriptDirectory.pathFor_of_lookup failed).imp_right fun searched =>
      ⟨root, List.mem_singleton_self root, searched⟩
  | .chain stores, failed => pathFor_of_lookupFirst stores failed

theorem pathFor_of_lookupFirst {files : FileTree} {id : Identifier} : (stores : List Store) →
    lookupFirst files id stores = .error failure →
      (∃ cause, failure = .scriptBy .unreadableExtension (.str id.text) cause ∧
          (cause = .notJson ∨ cause.isRefusal = true)) ∨
        ∃ root ∈ rootsOfAll stores, ScriptDirectory.pathFor files root id = .error failure
  | [], failed => by cases failed
  | store :: rest, failed => by
    rw [lookupFirst] at failed
    split at failed
    · exact (pathFor_of_lookupFirst rest failed).imp_right fun ⟨root, member, searched⟩ =>
        ⟨root, List.mem_append_right _ member, searched⟩
    · exact (pathFor_of_lookup store failed).imp_right fun ⟨root, member, searched⟩ =>
        ⟨root, List.mem_append_left _ member, searched⟩

end

theorem isWithheld_of_lookup {files : FileTree} {id : Identifier} (store : Store)
    (failed : store.lookup files id = .error failure) : failure.isWithheld = true := by
  rcases pathFor_of_lookup store failed with ⟨cause, rfl, -⟩ | ⟨root, _, searched⟩
  · rfl
  · have refusal := ScriptDirectory.isRefusal_of_pathFor searched
    cases failure <;> first | rfl | cases refusal

end Store

/-! ## Resolving -/

/-- No look-up fails with a circle, which only a walk can find. -/
def Source.ReportsNoCircle (source : Source) : Prop :=
  ∀ id value, source.lookup id ≠ .error (.script .circularExtension value)

theorem Store.reportsNoCircle (files : FileTree) (store : Store) :
    (store.source files).ReportsNoCircle := by
  intro id value failed
  have withheld := Store.isWithheld_of_lookup store failed
  cases withheld

/-- Resolving fails as the look-up does, or for what the look-up gives. -/
theorem Source.lookup_of_resolve_eq_error {source : Source} {id : Identifier} {shown : String}
    (failed : source.resolve id shown = .error failure) :
    source.lookup id = .error failure ∨ failure = .script .unknownExtension (.str shown) ∨
      (∃ cause, failure = .scriptBy .unreadableExtension (.str shown) cause) ∨
      failure.isJudgement = true := by
  unfold Source.resolve at failed
  split at failed
  · next looked =>
    cases failed
    exact .inl looked
  · cases failed
    exact .inr (.inl rfl)
  · split at failed
    · cases failed
      exact .inr (.inr (.inl ⟨_, rfl⟩))
    · exact .inr (.inr (.inr (Script.isJudgement_of_ofShape failed)))

theorem Source.resolve_ne_circular {source : Source} (silent : source.ReportsNoCircle)
    (id : Identifier) (shown : String) (value : Json) :
    source.resolve id shown ≠ .error (.script .circularExtension value) := by
  intro failed
  rcases lookup_of_resolve_eq_error failed with looked | unknown | ⟨_, unreadable⟩ | judged
  · exact silent id value looked
  · cases unknown
  · cases unreadable
  · cases judged

end LootScript
