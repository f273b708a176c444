import LootScript.Proofs.Drop.RoundTrip
import LootScript.Proofs.Fault

/-!
# The rules for drops

What makes a drop a valid one can be said of each drop of a tree on its own: its type names a kind,
its flag is the one that the kind requires, and it holds children only if it is composite and has no
name. Judging a tree succeeds exactly if all its drops keep these rules, and otherwise fails with
the gravest fault of the first drop that does not, each drop coming before its children.
-/
namespace LootScript

/-! ## Kinds by their identifiers -/

namespace DropKind

def identifier (kind : DropKind) : Identifier := ⟨Identifier.defaultScope, kind.name⟩

def ofIdentifier? (id : Identifier) : Option DropKind := all.find? fun kind => kind.identifier = id

theorem ofIdentifier?_eq_some_iff {id : Identifier} {kind : DropKind} :
    ofIdentifier? id = some kind ↔ id = kind.identifier := by
  constructor
  · intro found
    have same := List.find?_some found
    exact (of_decide_eq_true same).symm
  · rintro rfl
    cases kind <;> decide

theorem ofIdentifier?_eq (id : Identifier) :
    ofIdentifier? id = if id.scope = Identifier.defaultScope then ofName? id.name else none := by
  obtain ⟨scope, name⟩ := id
  unfold ofIdentifier? ofName? identifier
  split
  · next same =>
    have default : scope = Identifier.defaultScope := same
    rw [default]
    simp only [Identifier.mk.injEq, true_and]
  · next other =>
    rw [List.find?_eq_none]
    intro kind _ same
    exact other (congrArg Identifier.scope (of_decide_eq_true same)).symm

/-- A type is read as an identifier, and this as the kind that it names. -/
theorem ofJson_str (text : String) :
    ofJson (.str text) = match Identifier.parse text with
      | .error cause => .error (.scriptBy .dropType (.str text) cause)
      | .ok id => match ofIdentifier? id with
        | some kind => .ok kind
        | none => .error (.script .unknownDropType (.str text)) := by
  rw [ofJson, Identifier.ofJson]
  cases Identifier.parse text with
  | error cause => rfl
  | ok id =>
    dsimp only
    rw [ofIdentifier?_eq]
    by_cases default : id.scope = Identifier.defaultScope
    · cases ofName? id.name <;> rw [if_neg (not_not_intro default), if_pos default]
    · rw [if_pos default, if_neg default]

theorem ofJson_eq_ok_iff {text : String} {kind : DropKind} :
    ofJson (.str text) = .ok kind ↔ Identifier.parse text = .ok kind.identifier := by
  rw [ofJson_str]
  cases Identifier.parse text with
  | error cause => simp
  | ok id =>
    rw [Except.ok.injEq, ← ofIdentifier?_eq_some_iff]
    dsimp only
    cases ofIdentifier? id <;> simp

end DropKind

/-! ## The rules for a single drop -/

/-- A fault that is found in a drop. -/
def Failure.isDropFault : Failure → Bool
  | .scriptBy .dropType _ _ | .script .unknownDropType _ | .script .unsafeFlag _
  | .script .dropLayout _ => true
  | _ => false

namespace DropShape

/-- A drop of a kind that keeps the rules, whatever the drops below it are like. -/
structure SoundAs (kind : DropKind) (node : DropShape) : Prop where
  type : Identifier.parse node.type = .ok kind.identifier
  flag : node.flagged.getD false = kind.isComposite
  layout : node.children.isSome = true → kind.isComposite = true ∧ node.name = none

def Sound (node : DropShape) : Prop := ∃ kind, node.SoundAs kind

/--
The faults of a drop by their gravity. Without a kind nothing can be said of the flag and of the
children.
-/
def faults (node : DropShape) : List Failure :=
  match Identifier.parse node.type with
  | .error cause => [.scriptBy .dropType (.str node.type) cause]
  | .ok id => match DropKind.ofIdentifier? id with
    | none => [.script .unknownDropType (.str node.type)]
    | some kind =>
      (if node.flagged.getD false = kind.isComposite then []
        else [.script .unsafeFlag (.str node.type)]) ++
      (if node.children.isSome = true → kind.isComposite = true ∧ node.name = none then []
        else [.script .dropLayout (.str node.type)])

theorem faults_of_error {node : DropShape} {failure : Failure}
    (untyped : DropKind.ofJson (.str node.type) = .error failure) : node.faults = [failure] := by
  rw [DropKind.ofJson_str] at untyped
  unfold faults
  cases read : Identifier.parse node.type with
  | error cause =>
    rw [read] at untyped
    cases untyped
    rfl
  | ok id =>
    rw [read] at untyped
    dsimp only at untyped ⊢
    cases named : DropKind.ofIdentifier? id with
    | none =>
      rw [named] at untyped
      cases untyped
      rfl
    | some kind =>
      rw [named] at untyped
      cases untyped

theorem faults_of_ok {node : DropShape} {kind : DropKind}
    (typed : DropKind.ofJson (.str node.type) = .ok kind) :
    node.faults =
      (if node.flagged.getD false = kind.isComposite then []
        else [.script .unsafeFlag (.str node.type)]) ++
      (if node.children.isSome = true → kind.isComposite = true ∧ node.name = none then []
        else [.script .dropLayout (.str node.type)]) := by
  unfold faults
  rw [DropKind.ofJson_eq_ok_iff.mp typed]
  dsimp only
  rw [DropKind.ofIdentifier?_eq_some_iff.mpr rfl]

theorem faults_eq_nil_iff {node : DropShape} : node.faults = [] ↔ node.Sound := by
  cases read : DropKind.ofJson (.str node.type) with
  | error failure =>
    rw [faults_of_error read]
    refine iff_of_false (List.cons_ne_nil _ _) ?_
    rintro ⟨kind, sound⟩
    rw [DropKind.ofJson_eq_ok_iff.mpr sound.type] at read
    cases read
  | ok kind =>
    rw [faults_of_ok read, List.append_eq_nil_iff]
    simp only [ite_eq_left_iff, List.cons_ne_nil, imp_false, Decidable.not_not]
    constructor
    · rintro ⟨flag, layout⟩
      exact ⟨kind, DropKind.ofJson_eq_ok_iff.mp read, flag, layout⟩
    · rintro ⟨other, sound⟩
      rw [DropKind.ofJson_eq_ok_iff.mpr sound.type] at read
      cases read
      exact ⟨sound.flag, sound.layout⟩

theorem isDropFault_of_mem_faults {node : DropShape} {failure : Failure}
    (found : failure ∈ node.faults) : failure.isDropFault = true := by
  unfold faults at found
  split at found
  · cases List.mem_singleton.mp found
    rfl
  · split at found
    · cases List.mem_singleton.mp found
      rfl
    · rcases List.mem_append.mp found with found | found <;>
      · split at found
        · cases found
        · cases List.mem_singleton.mp found
          rfl

/-! ## All drops of a tree -/

mutual

/-- A drop and the drops below it, each before its children and these from left to right. -/
def nodes : DropShape → List DropShape
  | ⟨type, flagged, name, children, functions, conditions⟩ =>
    ⟨type, flagged, name, children, functions, conditions⟩ :: nodesBelow children

def nodesBelow : Option (List DropShape) → List DropShape
  | none => []
  | some shapes => nodesOfAll shapes

def nodesOfAll : List DropShape → List DropShape
  | [] => []
  | shape :: rest => nodes shape ++ nodesOfAll rest

end

end DropShape

namespace Drop

/-! ## Judging reports the faults -/

/--
One level of a judgement. The drop that is made at its end is never refused, for its flag has been
found to be the required one.
-/
theorem ofShape_mk (type : String) (flagged : Option Bool) (name : Option String)
    (children : Option (List DropShape)) (functions conditions : List Json) :
    ofShape ⟨type, flagged, name, children, functions, conditions⟩ = (do
      let kind ← DropKind.ofJson (.str type)
      if flagged.getD false = kind.isComposite then
        match children with
        | none => return ⟨kind, name, none, functions, conditions⟩
        | some shapes =>
          if kind.isComposite = true ∧ name = none then
            let drops ← ofShapes shapes
            return ⟨kind, name, some drops, functions, conditions⟩
          else .error (.script .dropLayout (.str type))
      else .error (.script .unsafeFlag (.str type))) := by
  rw [ofShape_node]
  cases DropKind.ofJson (.str type) with
  | error failure => rfl
  | ok kind =>
    have misplaced : (!kind.isComposite) = true ∨ name.isSome = true ↔
        ¬(kind.isComposite = true ∧ name = none) := by
      cases kind.isComposite <;> cases name <;> simp
    change (if flagged.getD false ≠ kind.isComposite then _ else _) =
      if flagged.getD false = kind.isComposite then _ else _
    rw [ite_not]
    by_cases flag : flagged.getD false = kind.isComposite
    · have made (children : Option (List Drop)) :
          make kind (flagged.getD false) name children functions conditions =
            .ok ⟨kind, name, children, functions, conditions⟩ := if_pos flag
      rw [if_pos flag, if_pos flag]
      cases children with
      | none => exact made none
      | some shapes =>
        dsimp only
        by_cases layout : kind.isComposite = true ∧ name = none
        · rw [if_neg fun wrong => misplaced.mp wrong layout, if_pos layout]
          cases ofShapes shapes with
          | error failure => rfl
          | ok drops => exact made (some drops)
        · rw [if_pos (misplaced.mpr layout), if_neg layout]
    · rw [if_neg flag, if_neg flag]

theorem ofShapes_cons (shape : DropShape) (rest : List DropShape) :
    ofShapes (shape :: rest) = (do
      let drop ← ofShape shape
      return drop :: (← ofShapes rest)) := by
  rw [ofShapes_node]
  cases ofShape shape with
  | error failure => rfl
  | ok drop => cases ofShapes rest <;> rfl

mutual

theorem reports_ofShape : (shape : DropShape) →
    Reports (shape.nodes.flatMap DropShape.faults) (ofShape shape)
  | ⟨type, flagged, name, children, functions, conditions⟩ => by
    rw [DropShape.nodes, List.flatMap_cons, ofShape_mk]
    cases typed : DropKind.ofJson (.str type) with
    | error failure =>
      rw [DropShape.faults_of_error typed]
      rfl
    | ok kind =>
      rw [DropShape.faults_of_ok typed]
      change Reports _ (if flagged.getD false = kind.isComposite then _ else _)
      by_cases flag : flagged.getD false = kind.isComposite
      · rw [if_pos flag, if_pos flag]
        cases children with
        | none => rfl
        | some shapes =>
          dsimp only
          by_cases layout : kind.isComposite = true ∧ name = none
          · rw [if_pos fun _ => layout, if_pos layout]
            exact (reports_ofShapes shapes).map _
          · -- The drops below may have faults as well; they stand behind this one.
            rw [if_neg fun fits => layout (fits rfl), if_neg layout]
            rfl
      · rw [if_neg flag, if_neg flag]
        rfl

theorem reports_ofShapes : (shapes : List DropShape) →
    Reports ((DropShape.nodesOfAll shapes).flatMap DropShape.faults) (ofShapes shapes)
  | [] => rfl
  | shape :: rest => by
    rw [DropShape.nodesOfAll, List.flatMap_append, ofShapes_cons]
    exact (reports_ofShape shape).bind fun drop _ => (reports_ofShapes rest).map _

end

theorem isDropFault_of_ofShape {shape : DropShape} {failure : Failure}
    (refused : ofShape shape = .error failure) : failure.isDropFault = true := by
  rw [(reports_ofShape shape).eq_error_iff] at refused
  obtain ⟨node, _, found⟩ := List.mem_flatMap.mp (List.mem_of_head? refused)
  exact DropShape.isDropFault_of_mem_faults found

/-! ## What the result says -/

/-- A drop that says what a shape says, with drops below it that say what the children say. -/
inductive Realizes : Drop → DropShape → Prop
  | leaf {kind : DropKind} {type : String} {flagged : Option Bool} {name : Option String}
    {functions conditions : List Json} (named : Identifier.parse type = .ok kind.identifier) :
    Realizes ⟨kind, name, none, functions, conditions⟩
      ⟨type, flagged, name, none, functions, conditions⟩
  | branch {kind : DropKind} {type : String} {flagged : Option Bool} {name : Option String}
    {drops : List Drop} {shapes : List DropShape} {functions conditions : List Json}
    (named : Identifier.parse type = .ok kind.identifier)
    (below : List.Forall₂ Realizes drops shapes) :
    Realizes ⟨kind, name, some drops, functions, conditions⟩
      ⟨type, flagged, name, some shapes, functions, conditions⟩

mutual

theorem realizes_of_ofShape : (shape : DropShape) → {drop : Drop} → ofShape shape = .ok drop →
    drop.Realizes shape
  | ⟨type, flagged, name, children, functions, conditions⟩, drop, judged => by
    rw [ofShape_mk, bind_eq_ok_iff] at judged
    obtain ⟨kind, typed, judged⟩ := judged
    have named := DropKind.ofJson_eq_ok_iff.mp typed
    split at judged
    · cases children with
      | none =>
        cases judged
        exact .leaf named
      | some shapes =>
        dsimp only at judged
        split at judged
        · rw [bind_eq_ok_iff] at judged
          obtain ⟨drops, below, judged⟩ := judged
          cases judged
          exact .branch named (realizes_of_ofShapes shapes below)
        · cases judged
    · cases judged

theorem realizes_of_ofShapes : (shapes : List DropShape) → {drops : List Drop} →
    ofShapes shapes = .ok drops → List.Forall₂ Realizes drops shapes
  | [], drops, judged => by
    cases judged
    exact .nil
  | shape :: rest, drops, judged => by
    rw [ofShapes_cons, bind_eq_ok_iff] at judged
    obtain ⟨drop, first, judged⟩ := judged
    rw [bind_eq_ok_iff] at judged
    obtain ⟨others, later, judged⟩ := judged
    cases judged
    exact .cons (realizes_of_ofShape shape first) (realizes_of_ofShapes rest later)

end

mutual

/-- A drop and the drops below it, each before its children and these from left to right. -/
def nodes : Drop → List Drop
  | ⟨kind, name, children, functions, conditions⟩ =>
    ⟨kind, name, children, functions, conditions⟩ :: nodesBelow children

def nodesBelow : Option (List Drop) → List Drop
  | none => []
  | some drops => nodesOfAll drops

def nodesOfAll : List Drop → List Drop
  | [] => []
  | drop :: rest => nodes drop ++ nodesOfAll rest

end

/-- A drop has children, were it none at all, and is not composite or has a name. -/
def Misplaced (node : Drop) : Prop :=
  node.children.isSome = true ∧ (node.kind.isComposite = false ∨ node.name ≠ none)

instance (node : Drop) : Decidable node.Misplaced :=
  inferInstanceAs (Decidable (_ ∧ _))

@[simp]
theorem type_toShape (node : Drop) : node.toShape.type = node.kind.text := by
  obtain ⟨_, _, children, _, _⟩ := node
  cases children <;> rfl

@[simp]
theorem flagged_toShape (node : Drop) :
    node.toShape.flagged.getD false = node.kind.isComposite := by
  obtain ⟨kind, _, children, _, _⟩ := node
  cases kind <;> cases children <;> rfl

@[simp]
theorem name_toShape (node : Drop) : node.toShape.name = node.name := by
  obtain ⟨_, _, children, _, _⟩ := node
  cases children <;> rfl

@[simp]
theorem isSome_children_toShape (node : Drop) :
    node.toShape.children.isSome = node.children.isSome := by
  obtain ⟨_, _, children, _, _⟩ := node
  cases children <;> rfl

/-- As a drop is written, its type and its flag are always the right ones. -/
theorem faults_toShape (node : Drop) :
    node.toShape.faults =
      if node.Misplaced then [.script .dropLayout (.str node.kind.text)] else [] := by
  have typed : DropKind.ofJson (.str node.toShape.type) = .ok node.kind := by
    rw [type_toShape, DropKind.ofJson_text]
  have layout : (node.children.isSome = true → node.kind.isComposite = true ∧ node.name = none) ↔
      ¬node.Misplaced := by
    rw [Misplaced, not_and, not_or, Bool.not_eq_false, ne_eq, not_not]
  rw [DropShape.faults_of_ok typed, if_pos (flagged_toShape node), List.nil_append]
  simp only [type_toShape, name_toShape, isSome_children_toShape, layout, ite_not]

theorem sound_toShape_iff {node : Drop} : node.toShape.Sound ↔ ¬node.Misplaced := by
  rw [← DropShape.faults_eq_nil_iff, faults_toShape]
  simp

mutual

theorem valid_iff : (drop : Drop) → (drop.Valid ↔ ∀ node ∈ drop.nodes, ¬node.Misplaced)
  | ⟨kind, name, children, functions, conditions⟩ => by
    rw [nodes, List.forall_mem_cons]
    cases children with
    | none => simp [Valid, nodesBelow, Misplaced]
    | some drops =>
      rw [nodesBelow, ← allValid_iff drops]
      simp [Valid, Misplaced, and_assoc]

theorem allValid_iff : (drops : List Drop) →
    (AllValid drops ↔ ∀ node ∈ nodesOfAll drops, ¬node.Misplaced)
  | [] => by simp [AllValid, nodesOfAll]
  | drop :: rest => by
    rw [AllValid, nodesOfAll, List.forall_mem_append, valid_iff drop, allValid_iff rest]

end

/-! ## Making single drops -/

mutual

/-- The flag of a drop is the required one when the drop is made, so it is not refused then. -/
theorem ofShapeRefusing_eq (refusal : DropKind → Failure) : (shape : DropShape) →
    ofShapeRefusing refusal shape = ofShape shape
  | ⟨type, flagged, name, children, functions, conditions⟩ => by
    rw [ofShape_node, ofShapeRefusing]
    cases DropKind.ofJson (.str type) with
    | error failure => rfl
    | ok kind =>
      dsimp only
      split
      · rfl
      · next flag =>
        -- The flag has been compared before, so no way to refuse it is taken.
        have made (children : Option (List Drop)) :
            makeRefusing refusal kind (flagged.getD false) name children functions conditions =
              make kind (flagged.getD false) name children functions conditions := by
          have required : flagged.getD false = kind.isComposite := Decidable.not_not.mp flag
          rw [make, makeRefusing, makeRefusing, if_pos required, if_pos required]
        cases children with
        | none => exact made none
        | some shapes => simp only [ofShapesRefusing_eq refusal shapes, made]

theorem ofShapesRefusing_eq (refusal : DropKind → Failure) : (shapes : List DropShape) →
    ofShapesRefusing refusal shapes = ofShapes shapes
  | [] => rfl
  | shape :: rest => by
    rw [ofShapesRefusing, ofShapes_node, ofShapeRefusing_eq refusal shape,
      ofShapesRefusing_eq refusal rest]

end

/-! ## What is judged well -/

/--
A tree is judged by the rules for each of its drops. It passes exactly if all of them keep the
rules; the result then says what the tree says, and its own drops keep the rules. Otherwise the
first drop that breaks a rule decides, with the gravest of its faults. Making a drop never refuses:
it does not matter how it would.
-/
theorem ofShape_by_rules (shape : DropShape) :
    ((∃ drop, ofShape shape = .ok drop) ↔ ∀ node ∈ shape.nodes, node.Sound) ∧
    (∀ drop, ofShape shape = .ok drop →
      drop.Realizes shape ∧ ∀ node ∈ drop.nodes, node.toShape.Sound) ∧
    (∀ failure, ofShape shape = .error failure ↔ ∃ before node after,
      shape.nodes = before ++ node :: after ∧ (∀ earlier ∈ before, earlier.Sound) ∧
        node.faults.head? = some failure) ∧
    ∀ refusal, ofShapeRefusing refusal shape = ofShape shape := by
  have reports := reports_ofShape shape
  refine ⟨?_, ?_, ?_, fun refusal => ofShapeRefusing_eq refusal shape⟩
  · rw [reports.exists_ok_iff, List.flatMap_eq_nil_iff]
    simp only [DropShape.faults_eq_nil_iff]
  · intro drop judged
    have valid := (valid_iff drop).mp (valid_of_ofShape shape judged)
    exact ⟨realizes_of_ofShape shape judged,
      fun node member => sound_toShape_iff.mpr (valid node member)⟩
  · intro failure
    rw [reports.flatMap_eq_error_iff]
    simp only [DropShape.faults_eq_nil_iff]

/-- A group under its short name, with a flag that says nothing below it and an empty sequence. -/
theorem ofShape_by_rules_of_group :
    let item : DropShape := ⟨"minecraft:item", some false, some "", none, [.null], []⟩
    let sequence : DropShape := ⟨"sequence", some true, none, some [], [], []⟩
    let shape : DropShape := ⟨"group", some true, none, some [item, sequence], [], [.bool true]⟩
    let drop : Drop := ⟨.group, none, some [⟨.item, some "", none, [.null], []⟩,
      ⟨.sequence, none, some [], [], []⟩], [], [.bool true]⟩
    (∀ node ∈ shape.nodes, node.Sound) ∧ ofShape shape = .ok drop ∧ drop.Realizes shape ∧
      ∀ node ∈ drop.nodes, node.toShape.Sound := by
  intro item sequence shape drop
  obtain ⟨passes, result, -, -⟩ := ofShape_by_rules shape
  have judged : ofShape shape = .ok drop := by decide +kernel
  exact ⟨passes.mp ⟨drop, judged⟩, judged, result drop judged⟩

end Drop

end LootScript
