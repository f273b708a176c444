import LootScript.Proofs.Drop.Rules
import LootScript.Script.Basic

/-!
# The order in which a script is judged

The checks of a script are those of its pools in their order, then that of the reference, then those
of the removals. A pool has two of them. As the order is documented, the key comes before the drop,
but judging looks at the drop first. The difference shows exactly if the first pool that fails a
check fails both.
-/
namespace LootScript

/-- A drop is never refused in a way in which a key is. -/
theorem Identifier.isDropFault_of_parse {text : String} {failure : Failure}
    (refused : parse text = .error failure) : failure.isDropFault = false := by
  rcases eq_of_parse_eq_error refused with rfl | rfl <;> rfl

namespace ScriptShape

/-! ## The faults of a script -/

/-- The faults of a pool in the documented order. -/
def keyFirst (pool : String × DropShape) : List Failure :=
  faultOf (Identifier.parse pool.1) ++ faultOf (Drop.ofShape pool.2)

/-- The faults of a pool in the order in which they are found. -/
def dropFirst (pool : String × DropShape) : List Failure :=
  faultOf (Drop.ofShape pool.2) ++ faultOf (Identifier.parse pool.1)

/-- The faults of a script, where those of a single pool are in a given order. -/
def faults (ofPool : String × DropShape → List Failure) (shape : ScriptShape) : List Failure :=
  shape.pools.flatMap ofPool ++
  ((shape.extend.toList.flatMap fun raw => faultOf (Reference.parse raw)) ++
  shape.remove.flatMap fun text => faultOf (Identifier.parse text))

/-- The first pool with a fault has a wrong key, and a wrong drop that hides it. -/
def KeyHidden : List (String × DropShape) → Prop
  | [] => False
  | pool :: rest => match Identifier.parse pool.1, Drop.ofShape pool.2 with
    | .ok _, .ok _ => KeyHidden rest
    | .error _, .error _ => True
    | _, _ => False

/-- Both orders of the faults begin with the same one unless a drop hides a key. -/
theorem head?_keyFirst_eq_iff (pools : List (String × DropShape)) (others : List Failure) :
    (pools.flatMap keyFirst ++ others).head? = (pools.flatMap dropFirst ++ others).head? ↔
      ¬KeyHidden pools := by
  induction pools with
  | nil => exact iff_of_true rfl not_false
  | cons pool rest ih =>
    rw [List.flatMap_cons, List.flatMap_cons, keyFirst, dropFirst, KeyHidden]
    cases named : Identifier.parse pool.1 with
    | ok id =>
      cases judged : Drop.ofShape pool.2 with
      | ok result => exact ih
      | error failure => exact iff_of_true rfl not_false
    | error failure =>
      cases judged : Drop.ofShape pool.2 with
      | ok result => exact iff_of_true rfl not_false
      | error cause =>
        refine iff_of_false (fun same => ?_) (not_not_intro trivial)
        -- The two lists begin with different faults.
        have one : failure = cause := Option.some.inj same
        have ofKey := Identifier.isDropFault_of_parse named
        rw [one, Drop.isDropFault_of_ofShape judged] at ofKey
        cases ofKey

end ScriptShape

namespace Script

/-! ## Judging reports the faults -/

theorem reports_readPools (pools : OrderedMap Identifier Drop)
    (shapes : List (String × DropShape)) :
    Reports (shapes.flatMap ScriptShape.dropFirst) (readPools pools shapes) := by
  induction shapes generalizing pools with
  | nil => rfl
  | cons pool rest ih =>
    rw [readPools, List.flatMap_cons, ScriptShape.dropFirst, List.append_assoc]
    refine (reports_faultOf _).bind fun drop _ => ?_
    exact (reports_faultOf _).bind fun id _ => ih _

theorem reports_readBase (written : Option String) :
    Reports (written.toList.flatMap fun raw => faultOf (Reference.parse raw))
      (readBase written) := by
  cases written with
  | none => rfl
  | some raw =>
    rw [Option.toList_some, List.flatMap_singleton]
    exact (reports_faultOf _).map _

theorem reports_ofShape (shape : ScriptShape) :
    Reports (shape.faults ScriptShape.dropFirst) (ofShape shape) := by
  refine (reports_readPools _ _).bind fun pools _ => ?_
  refine (reports_readBase _).bind fun base _ => ?_
  have removals : Reports (shape.remove.flatMap fun text => faultOf (Identifier.parse text))
      (Identifier.parseAll shape.remove) := Reports.mapM fun text _ => reports_faultOf _
  exact removals.map _

/--
Judging a script fails with the first of its faults, where the drop of a pool comes before its key.
The documented order, where the key comes first, names the same fault except for the scripts in
which a drop hides a key.
-/
theorem ofShape_order (shape : ScriptShape) :
    Reports (shape.faults ScriptShape.dropFirst) (ofShape shape) ∧
    (Reports (shape.faults ScriptShape.keyFirst) (ofShape shape) ↔
      ¬ScriptShape.KeyHidden shape.pools) := by
  have reports := reports_ofShape shape
  refine ⟨reports, ?_⟩
  rw [reports.iff_head?_eq]
  exact ScriptShape.head?_keyFirst_eq_iff _ _

/-- The key is no identifier, but what is reported is the type of the drop. -/
theorem ofShape_hides_key :
    let shape : ScriptShape :=
      ⟨none, none, [("A", ⟨"bad", none, none, none, [], []⟩)], []⟩
    (shape.faults ScriptShape.keyFirst).head? = some (.script .identifierCharacters (.str "A")) ∧
      ofShape shape = .error (.script .unknownDropType (.str "bad")) ∧
      ¬Reports (shape.faults ScriptShape.keyFirst) (ofShape shape) := by
  intro shape
  have first : (shape.faults ScriptShape.keyFirst).head? =
      some (.script .identifierCharacters (.str "A")) := by decide +kernel
  have judged : ofShape shape = .error (.script .unknownDropType (.str "bad")) := by
    decide +kernel
  refine ⟨first, judged, ?_⟩
  intro reports
  rw [reports.eq_error_iff, first] at judged
  cases judged

end Script

end LootScript
