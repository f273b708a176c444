import LootScript.Proofs.Failure
import LootScript.Proofs.Identifier
import LootScript.Proofs.Wording.Failure
import LootScript.Script.Basic

/-!
# The texts in what is read

What a failure shows of a script comes out of the script: the texts of its pools, types, references
and removals, and the places in it, which are named by its pools. So if these texts are spelled in
an alphabet, then so is everything that a failure to read the script, or to judge it, shows.
-/
namespace LootScript

variable {α : Type} {alphabet : Alphabet}

/-! ## Values and shapes -/

mutual

/-- All texts in the value, keys included, are spelled in the alphabet. -/
def Json.Spelled (alphabet : Alphabet) : Json → Prop
  | .null | .bool _ | .int _ | .double _ => True
  | .str text => alphabet.Spells text
  | .arr items => Json.SpelledItems alphabet items
  | .obj fields => Json.SpelledFields alphabet fields

def Json.SpelledItems (alphabet : Alphabet) : List Json → Prop
  | [] => True
  | item :: rest => Json.Spelled alphabet item ∧ Json.SpelledItems alphabet rest

def Json.SpelledFields (alphabet : Alphabet) : List (String × Json) → Prop
  | [] => True
  | (key, value) :: rest =>
    alphabet.Spells key ∧ Json.Spelled alphabet value ∧ Json.SpelledFields alphabet rest

end

mutual

/-- Every value is spelled in the class of all characters. -/
theorem Json.spelled_all : (value : Json) → value.Spelled .all
  | .null | .bool _ | .int _ | .double _ => trivial
  | .str text => Alphabet.spells_all text
  | .arr items => Json.spelledItems_all items
  | .obj fields => Json.spelledFields_all fields

theorem Json.spelledItems_all : (items : List Json) → Json.SpelledItems .all items
  | [] => trivial
  | item :: rest => ⟨Json.spelled_all item, Json.spelledItems_all rest⟩

theorem Json.spelledFields_all : (fields : List (String × Json)) → Json.SpelledFields .all fields
  | [] => trivial
  | (key, value) :: rest =>
    ⟨Alphabet.spells_all key, Json.spelled_all value, Json.spelledFields_all rest⟩

end

mutual

/-- The types in the shape of a drop are spelled in the alphabet. -/
def DropShape.Spelled (alphabet : Alphabet) : DropShape → Prop
  | ⟨type, _, _, children, _, _⟩ =>
    alphabet.Spells type ∧ DropShape.SpelledChildren alphabet children

def DropShape.SpelledChildren (alphabet : Alphabet) : Option (List DropShape) → Prop
  | none => True
  | some shapes => DropShape.SpelledAll alphabet shapes

def DropShape.SpelledAll (alphabet : Alphabet) : List DropShape → Prop
  | [] => True
  | shape :: rest => DropShape.Spelled alphabet shape ∧ DropShape.SpelledAll alphabet rest

end

/-- The texts in the shape of a script that are judged are spelled in the alphabet. -/
structure ScriptShape.Spelled (alphabet : Alphabet) (shape : ScriptShape) : Prop where
  extend : ∀ text ∈ shape.extend, alphabet.Spells text
  pools : ∀ pool ∈ shape.pools, alphabet.Spells pool.1 ∧ pool.2.Spelled alphabet
  remove : ∀ text ∈ shape.remove, alphabet.Spells text

theorem Json.spelled_of_lookup {fields : List (String × Json)} {key : String} {value : Json}
    (spelled : SpelledFields alphabet fields) (found : fields.lookup key = some value) :
    value.Spelled alphabet := by
  induction fields with
  | nil => cases found
  | cons field rest ih =>
    obtain ⟨name, here⟩ := field
    obtain ⟨-, first, later⟩ := spelled
    rw [List.lookup_cons] at found
    split at found
    · cases found; exact first
    · exact ih later found

/-! ## Fields -/

namespace FieldType

variable {type : FieldType α} {location key : String} {fields : List (String × Json)}

/-- What is read of a value that is spelled in the alphabet is as it should be. -/
structure Reads (alphabet : Alphabet) (type : FieldType α) (well : α → Prop) : Prop where
  name : type.name.toList.all Text.isPlain = true
  read : ∀ value a, value.Spelled alphabet → type.read? value = some a → well a

theorem reads_flag : flag.Reads alphabet fun _ => True := ⟨by decide, fun _ _ _ _ => trivial⟩

theorem reads_text : text.Reads alphabet alphabet.Spells where
  name := by decide
  read value written spelled read := by
    cases value with
    | str text => cases read; exact spelled
    | _ => cases read

theorem reads_list : list.Reads alphabet (Json.SpelledItems alphabet) where
  name := by decide
  read value items spelled read := by
    cases value with
    | arr items => cases read; exact spelled
    | _ => cases read

theorem reads_object : object.Reads alphabet (Json.SpelledFields alphabet) where
  name := by decide
  read value fields spelled read := by
    cases value with
    | obj fields => cases read; exact spelled
    | _ => cases read

theorem ends_refuse {β : Type} {well : β → Prop} (plain : type.name.toList.all Text.isPlain = true)
    (located : alphabet.Spells location) (named : alphabet.Spells key) :
    Ends well (Failure.Reason alphabet) (type.refuse location key) := by
  refine .shape ?_ ?_
  · exact (located.words (by decide)).append named
  · rw [String.toList_append, List.all_append, plain]
    decide

theorem ends_optional {well : α → Prop} (reads : type.Reads alphabet well)
    (located : alphabet.Spells location) (named : alphabet.Spells key)
    (spelled : Json.SpelledFields alphabet fields) :
    Ends (fun found => ∀ a ∈ found, well a) (Failure.Reason alphabet)
      (type.optional location key fields) := by
  unfold optional
  split
  · simp [Ends]
  · simp [Ends]
  · next value _ found =>
    split
    · next a read =>
      have well := reads.read value a (Json.spelled_of_lookup spelled found) read
      simpa [Ends] using well
    · exact ends_refuse reads.name located named

end FieldType

/-! ## Drops -/

namespace DropShape

theorem ends_withFields {type location : String} {children : Option (List DropShape)}
    {fields : List (String × Json)} (typed : alphabet.Spells type)
    (held : SpelledChildren alphabet children) (located : alphabet.Spells location)
    (spelled : Json.SpelledFields alphabet fields) :
    Ends (Spelled alphabet) (Failure.Reason alphabet)
      (withFields type children location fields) := by
  have key {key : String} (plain : key.toList.all Text.isPlain = true) : alphabet.Spells key :=
    Alphabet.spells_of_all plain
  refine Ends.bind (FieldType.ends_optional FieldType.reads_flag located (key rfl) spelled) ?_
  intro flagged _
  refine Ends.bind (FieldType.ends_optional FieldType.reads_text located (key rfl) spelled) ?_
  intro name _
  refine Ends.bind (FieldType.ends_optional FieldType.reads_list located (key rfl) spelled) ?_
  intro functions _
  refine Ends.bind (FieldType.ends_optional FieldType.reads_list located (key rfl) spelled) ?_
  intro conditions _
  change Spelled alphabet ⟨type, flagged, name, children, functions.getD [], conditions.getD []⟩
  rw [Spelled]
  exact ⟨typed, held⟩

mutual

theorem ends_ofJson {location : String} (located : alphabet.Spells location) :
    (value : Json) → value.Spelled alphabet →
      Ends (Spelled alphabet) (Failure.Reason alphabet) (ofJson location value)
  | .obj fields, spelled => by
    have untyped : Failure.Reason alphabet (.shape (location ++ ".type") "required string") :=
      .shape (located.words (by decide)) (by decide)
    rw [ofJson]
    cases found : fields.lookup "type" with
    | none => exact untyped
    | some value =>
      cases value with
      | str type =>
        have typed : alphabet.Spells type := Json.spelled_of_lookup spelled found
        -- Children come before the other fields, so their fault is the one that comes out.
        have held := ends_readChildren located fields spelled
        cases read : readChildren location fields with
        | error failure =>
          rw [read] at held
          exact held
        | ok children =>
          rw [read] at held
          exact ends_withFields typed held located spelled
      | _ => exact untyped
  | .null, _ | .bool _, _ | .int _, _ | .double _, _ | .str _, _ | .arr _, _ =>
    .shape located (by decide)

theorem ends_readChildren {location : String} (located : alphabet.Spells location) :
    (fields : List (String × Json)) → Json.SpelledFields alphabet fields →
      Ends (SpelledChildren alphabet) (Failure.Reason alphabet) (readChildren location fields)
  | [], _ => by
    change SpelledChildren alphabet none
    rw [SpelledChildren]
    trivial
  | (key, value) :: rest, spelled => by
    obtain ⟨-, here, later⟩ := spelled
    unfold readChildren
    split
    · cases value with
      | null =>
        change SpelledChildren alphabet none
        rw [SpelledChildren]
        trivial
      | arr items =>
        have inside : alphabet.Spells (location ++ ".children") := located.words (by decide)
        have held := ends_readItems inside 0 items here
        dsimp only
        cases read : readItems (location ++ ".children") 0 items with
        | error failure =>
          rw [read] at held
          exact held
        | ok children =>
          rw [read] at held
          change SpelledChildren alphabet (some children)
          rw [SpelledChildren]
          exact held
      | _ =>
        exact FieldType.ends_refuse (by decide) located (Alphabet.spells_of_all (by decide))
    · exact ends_readChildren located rest later

theorem ends_readItems {location : String} (located : alphabet.Spells location) (index : Nat) :
    (items : List Json) → Json.SpelledItems alphabet items →
      Ends (SpelledAll alphabet) (Failure.Reason alphabet) (readItems location index items)
  | [], _ => trivial
  | item :: rest, spelled => by
    have place : alphabet.Spells (location ++ "[" ++ toString index ++ "]") :=
      ((located.words (by decide)).append (Alphabet.spells_toString index)).words (by decide)
    have first := ends_ofJson place item spelled.1
    have later := ends_readItems located (index + 1) rest spelled.2
    rw [readItems]
    cases read : ofJson (location ++ "[" ++ toString index ++ "]") item with
    | error failure =>
      rw [read] at first
      exact first
    | ok shape =>
      rw [read] at first
      cases others : readItems location (index + 1) rest with
      | error failure =>
        rw [others] at later
        exact later
      | ok shapes =>
        rw [others] at later
        exact ⟨first, later⟩

end

end DropShape

/-! ## Scripts -/

namespace ScriptShape

theorem ends_readPools {fields : List (String × Json)}
    (spelled : Json.SpelledFields alphabet fields) :
    Ends (fun pools => ∀ pool ∈ pools, alphabet.Spells pool.1 ∧ pool.2.Spelled alphabet)
      (Failure.Reason alphabet) (readPools fields) := by
  induction fields with
  | nil => exact List.forall_mem_nil _
  | cons field rest ih =>
    obtain ⟨key, value⟩ := field
    obtain ⟨named, here, later⟩ := spelled
    have place : alphabet.Spells ("pools." ++ key) :=
      Alphabet.Spells.append (Alphabet.spells_of_all (by decide)) named
    rw [readPools]
    refine Ends.bind (DropShape.ends_ofJson place value here) ?_
    intro shape inside
    refine Ends.bind (ih later) ?_
    intro shapes others
    exact List.forall_mem_cons.mpr ⟨⟨named, inside⟩, others⟩

theorem ends_readRemovals {items : List Json} (spelled : Json.SpelledItems alphabet items)
    (index : Nat) :
    Ends (fun texts => ∀ text ∈ texts, alphabet.Spells text) (Failure.Reason alphabet)
      (readRemovals index items) := by
  induction items generalizing index with
  | nil => exact List.forall_mem_nil _
  | cons item rest ih =>
    cases item with
    | str text =>
      rw [readRemovals]
      refine Ends.map (ih spelled.2 (index + 1)) ?_
      intro texts others
      exact List.forall_mem_cons.mpr ⟨spelled.1, others⟩
    | _ =>
      have place : alphabet.Spells ("remove[" ++ toString index ++ "]") :=
        ((Alphabet.spells_of_all (by decide)).append (Alphabet.spells_toString index)).words
          (by decide)
      exact .shape place (by decide)

theorem ends_ofJson {value : Json} (spelled : value.Spelled alphabet) :
    Ends (Spelled alphabet) (Failure.Reason alphabet) (ofJson value) := by
  have words {text : String} (plain : text.toList.all Text.isPlain = true) :
      alphabet.Spells text := Alphabet.spells_of_all plain
  have script : alphabet.Spells "script" := words (by decide)
  cases value with
  | obj fields =>
    rw [ofJson]
    refine Ends.bind (FieldType.ends_optional FieldType.reads_object script (words rfl) spelled) ?_
    intro pools inside
    have spelledPools : Json.SpelledFields alphabet (pools.getD []) := by
      cases pools with
      | none => trivial
      | some fields => exact inside fields rfl
    refine Ends.bind (ends_readPools spelledPools) ?_
    intro pools inside
    refine Ends.bind (FieldType.ends_optional FieldType.reads_list script (words rfl) spelled) ?_
    intro remove listed
    have spelledRemovals : Json.SpelledItems alphabet (remove.getD []) := by
      cases remove with
      | none => trivial
      | some items => exact listed items rfl
    refine Ends.bind (ends_readRemovals spelledRemovals 0) ?_
    intro remove listed
    refine Ends.bind (FieldType.ends_optional FieldType.reads_text script (words rfl) spelled) ?_
    intro type _
    refine Ends.bind (FieldType.ends_optional FieldType.reads_text script (words rfl) spelled) ?_
    intro extend named
    exact ⟨named, inside, listed⟩
  | _ => exact .shape script (by decide)

end ScriptShape

/-! ## Identifiers -/

namespace Identifier

variable {text : String} {id : Identifier}

theorem isPlain_of_isAllowed {c : Char} (allowed : isAllowed c = true) :
    Text.isPlain c = true := by
  simp only [isAllowed, Bool.or_eq_true, decide_eq_true_eq, beq_iff_eq] at allowed
  rcases allowed with ((((letter | digit) | rfl) | rfl) | rfl) | rfl
  · exact Text.isPlain_of_between letter.1 letter.2 (by decide)
  · exact Text.isPlain_of_between digit.1 digit.2 (by decide)
  all_goals rfl

/-- Whatever is read as an identifier is made of plain characters. -/
theorem spells_of_parse (read : parse text = .ok id) : alphabet.Spells text := by
  unfold parse at read
  split at read
  · cases read
  · next allowed =>
    simp only [not_or, Bool.not_eq_true, Bool.not_eq_false', List.all_eq_true] at allowed
    exact Alphabet.spells_of_plain fun c member => isPlain_of_isAllowed (allowed.2 c member)

theorem spells_text (formed : id.WellFormed) : alphabet.Spells id.text :=
  spells_of_parse (parse_text formed)

/-- Reading fails by a fault that shows the text. -/
theorem exists_fault_of_parse {failure : Failure} (failed : parse text = .error failure) :
    ∃ fault : ScriptFault, fault.showsValue = true ∧ failure = .script fault (.str text) := by
  rcases eq_of_parse_eq_error failed with rfl | rfl <;> exact ⟨_, rfl, rfl⟩

theorem ends_parse (spelled : alphabet.Spells text) :
    Ends (fun _ => True) (Failure.OfScript alphabet) (parse text) := by
  cases outcome : parse text with
  | ok id => trivial
  | error failure =>
    -- The fault is about the whole text, and not about a part of it.
    obtain ⟨fault, own, rfl⟩ := exists_fault_of_parse outcome
    exact .value own spelled

theorem ends_parseAll {texts : List String} (spelled : ∀ text ∈ texts, alphabet.Spells text) :
    Ends (fun _ => True) (Failure.OfScript alphabet) (parseAll texts) := by
  rw [parseAll]
  induction texts with
  | nil => trivial
  | cons text rest ih =>
    obtain ⟨first, others⟩ := List.forall_mem_cons.mp spelled
    rw [List.mapM_cons]
    exact (ends_parse first).bind fun _ _ => (ih others).bind fun _ _ => trivial

end Identifier

/-! ## Judging -/

theorem Reference.ends_parse {raw : String} (spelled : alphabet.Spells raw) :
    Ends (fun _ => True) (Failure.OfScript alphabet) (parse raw) := by
  unfold parse
  split
  · trivial
  · next cause failed =>
    obtain ⟨fault, own, rfl⟩ := Identifier.exists_fault_of_parse failed
    exact .wrapped rfl own spelled

theorem DropKind.ends_ofJson {type : String} (spelled : alphabet.Spells type) :
    Ends (fun _ => True) (Failure.OfScript alphabet) (ofJson (.str type)) := by
  unfold ofJson
  split
  · next cause failed =>
    obtain ⟨fault, own, rfl⟩ := Identifier.exists_fault_of_parse failed
    exact .wrapped rfl own spelled
  · split
    · exact .value rfl spelled
    · split
      · trivial
      · exact .value rfl spelled

theorem DropKind.spells_text (kind : DropKind) : alphabet.Spells kind.text := by
  cases kind <;> exact Alphabet.spells_of_all (by decide)

namespace Drop

theorem ends_make (kind : DropKind) (flagged : Bool) (name : Option String)
    (children : Option (List Drop)) (functions conditions : List Json) :
    Ends (fun _ => True) (Failure.OfScript alphabet)
      (make kind flagged name children functions conditions) := by
  unfold make makeRefusing
  split
  · trivial
  · exact .value rfl kind.spells_text

mutual

theorem ends_ofShape : (shape : DropShape) → shape.Spelled alphabet →
    Ends (fun _ => True) (Failure.OfScript alphabet) (ofShape shape)
  | ⟨type, flagged, name, children, functions, conditions⟩, spelled => by
    rw [DropShape.Spelled] at spelled
    obtain ⟨typed, held⟩ := spelled
    have known := DropKind.ends_ofJson typed
    rw [ofShape_node]
    cases read : DropKind.ofJson (.str type) with
    | error failure =>
      rw [read] at known
      exact known
    | ok kind =>
      dsimp only
      split
      · exact .value rfl typed
      · cases children with
        | none => exact ends_make ..
        | some shapes =>
          rw [DropShape.SpelledChildren] at held
          have inside := ends_ofShapes shapes held
          dsimp only
          split
          · exact .value rfl typed
          · cases judged : ofShapes shapes with
            | error failure =>
              rw [judged] at inside
              exact inside
            | ok drops => exact ends_make ..

theorem ends_ofShapes : (shapes : List DropShape) → DropShape.SpelledAll alphabet shapes →
    Ends (fun _ => True) (Failure.OfScript alphabet) (ofShapes shapes)
  | [], _ => trivial
  | shape :: rest, spelled => by
    have first := ends_ofShape shape spelled.1
    have later := ends_ofShapes rest spelled.2
    rw [ofShapes_node]
    cases judged : ofShape shape with
    | error failure =>
      rw [judged] at first
      exact first
    | ok drop =>
      cases others : ofShapes rest with
      | error failure =>
        rw [others] at later
        exact later
      | ok drops => trivial

end

end Drop

namespace Script

theorem ends_readPools {pools : OrderedMap Identifier Drop} {written : List (String × DropShape)}
    (spelled : ∀ pool ∈ written, alphabet.Spells pool.1 ∧ pool.2.Spelled alphabet) :
    Ends (fun _ => True) (Failure.OfScript alphabet) (readPools pools written) := by
  induction written generalizing pools with
  | nil => trivial
  | cons pool rest ih =>
    obtain ⟨key, shape⟩ := pool
    obtain ⟨⟨named, typed⟩, others⟩ := List.forall_mem_cons.mp spelled
    rw [readPools]
    exact (Drop.ends_ofShape shape typed).bind fun _ _ => (Identifier.ends_parse named).bind
      fun _ _ => ih others

theorem ends_readBase {written : Option String} (spelled : ∀ raw ∈ written, alphabet.Spells raw) :
    Ends (fun _ => True) (Failure.OfScript alphabet) (readBase written) := by
  cases written with
  | none => trivial
  | some raw => exact (Reference.ends_parse (spelled raw rfl)).map fun _ _ => trivial

/-- A fault of a script shows nothing but the texts in its shape. -/
theorem ends_ofShape {shape : ScriptShape} (spelled : shape.Spelled alphabet) :
    Ends (fun _ => True) (Failure.OfScript alphabet) (ofShape shape) := by
  rw [ofShape]
  exact (ends_readPools spelled.pools).bind fun _ _ => (ends_readBase spelled.extend).bind
    fun _ _ => (Identifier.ends_parseAll spelled.remove).bind fun _ _ => trivial

end Script

end LootScript
