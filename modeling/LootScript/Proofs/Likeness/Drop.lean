import LootScript.Drop.Tree
import LootScript.Proofs.Likeness.Basic

/-!
# Like drops

Drops are like one another, as they are written, in their shapes or judged, if they have the same
fields at every depth, but for their types, which are like texts, and their payloads, which are like
one by one. Reading, judging and writing keep drops alike.
-/
namespace LootScript

namespace Json

mutual

/-- Like drops, as they are written. -/
def LikeDrop (like : Likeness) : Json → Json → Prop
  | .obj fields, other => ∃ fields', other = .obj fields' ∧ LikeFields like fields fields'
  | value, other => other = value

def LikeFields (like : Likeness) : List (String × Json) → List (String × Json) → Prop
  | [], others => others = []
  | (key, value) :: rest, others => ∃ value' rest', others = (key, value') :: rest' ∧
      LikeField like key value value' ∧ LikeFields like rest rest'

def LikeField (like : Likeness) (key : String) : Json → Json → Prop
  | .arr items, other =>
    if key = "children" then ∃ items', other = .arr items' ∧ LikeDrops like items items'
    else if key = "functions" ∨ key = "conditions" then LikeList like.payload (.arr items) other
    else other = .arr items
  | value, other => if key = "type" then LikeText like value other else other = value

def LikeDrops (like : Likeness) : List Json → List Json → Prop
  | [], others => others = []
  | item :: rest, others => ∃ item' rest', others = item' :: rest' ∧
      LikeDrop like item item' ∧ LikeDrops like rest rest'

end

end Json

mutual

def DropShape.Like (like : Likeness) : DropShape → DropShape → Prop
  | ⟨type, flagged, name, children, functions, conditions⟩, other =>
    like.text type other.type ∧ other.flagged = flagged ∧ other.name = name ∧
    DropShape.LikeChildren like children other.children ∧
    List.Forall₂ like.payload functions other.functions ∧
    List.Forall₂ like.payload conditions other.conditions

def DropShape.LikeChildren (like : Likeness) :
    Option (List DropShape) → Option (List DropShape) → Prop
  | none, other => other = none
  | some shapes, other => ∃ shapes', other = some shapes' ∧ DropShape.LikeAll like shapes shapes'

def DropShape.LikeAll (like : Likeness) : List DropShape → List DropShape → Prop
  | [], others => others = []
  | shape :: rest, others => ∃ shape' rest', others = shape' :: rest' ∧
      DropShape.Like like shape shape' ∧ DropShape.LikeAll like rest rest'

end

mutual

def Drop.Like (like : Likeness) : Drop → Drop → Prop
  | ⟨kind, name, children, functions, conditions⟩, other =>
    other.kind = kind ∧ other.name = name ∧
    Drop.LikeChildren like children other.children ∧
    List.Forall₂ like.payload functions other.functions ∧
    List.Forall₂ like.payload conditions other.conditions

def Drop.LikeChildren (like : Likeness) : Option (List Drop) → Option (List Drop) → Prop
  | none, other => other = none
  | some drops, other => ∃ drops', other = some drops' ∧ Drop.LikeAll like drops drops'

def Drop.LikeAll (like : Likeness) : List Drop → List Drop → Prop
  | [], others => others = []
  | drop :: rest, others => ∃ drop' rest', others = drop' :: rest' ∧
      Drop.Like like drop drop' ∧ Drop.LikeAll like rest rest'

end

variable {like : Likeness}

/-! ## Fields -/

namespace Json

/-- A field of no special meaning is the same. -/
theorem eq_of_likeField {key : String} {value other : Json} (alike : LikeField like key value other)
    (plain : key ∉ ["type", "children", "functions", "conditions"]) : other = value := by
  simp only [List.mem_cons, List.not_mem_nil, or_false, not_or] at plain
  obtain ⟨untyped, childless, noFunctions, noConditions⟩ := plain
  cases value <;> simpa [LikeField, untyped, childless, noFunctions, noConditions] using alike

theorem likeList_of_likeField {key : String} {value other : Json}
    (alike : LikeField like key value other) (payload : key = "functions" ∨ key = "conditions") :
    LikeList like.payload value other := by
  rcases payload with rfl | rfl <;> cases value <;> simpa [LikeField, LikeList] using alike

theorem likeText_of_likeField {value other : Json} (alike : LikeField like "type" value other) :
    LikeText like value other := by
  cases value <;> simpa [LikeField, LikeText] using alike

theorem lookup_of_likeFields {fields fields' : List (String × Json)}
    (alike : LikeFields like fields fields') (key : String) :
    Option.Rel (LikeField like key) (fields.lookup key) (fields'.lookup key) := by
  induction fields generalizing fields' with
  | nil =>
    rw [LikeFields] at alike
    rw [alike]
    exact .none
  | cons field rest ih =>
    obtain ⟨name, value⟩ := field
    rw [LikeFields] at alike
    obtain ⟨value', rest', rfl, first, later⟩ := alike
    rw [List.lookup_cons, List.lookup_cons]
    cases same : key == name with
    | false => exact ih later
    | true =>
      rw [eq_of_beq same]
      exact .some first

theorem lookup_eq_of_likeFields {fields fields' : List (String × Json)}
    (alike : LikeFields like fields fields') {key : String}
    (plain : key ∉ ["type", "children", "functions", "conditions"]) :
    fields'.lookup key = fields.lookup key := by
  have found := lookup_of_likeFields alike key
  generalize fields.lookup key = value, fields'.lookup key = other at found
  cases found with
  | none => rfl
  | some field => rw [eq_of_likeField field plain]

end Json

theorem FieldType.payloads_alike {location location' key : String}
    {fields fields' : List (String × Json)} (places : like.Places location location')
    (alike : Json.LikeFields like fields fields')
    (payload : key = "functions" ∨ key = "conditions") :
    Alike like.failure (Option.Rel (List.Forall₂ like.payload)) (list.optional location key fields)
      (list.optional location' key fields') :=
  optional_alike places
    (fun value other field => list_readsAlike value other
      (Json.likeList_of_likeField field payload))
    rfl (Json.lookup_of_likeFields alike key)

/-! ## Reading -/

namespace DropShape

theorem withFields_alike {location location' type type' : String}
    {children children' : Option (List DropShape)} {fields fields' : List (String × Json)}
    (places : like.Places location location') (types : like.text type type')
    (held : LikeChildren like children children')
    (alike : Json.LikeFields like fields fields') :
    Alike like.failure (Like like) (withFields type children location fields)
      (withFields type' children' location' fields') := by
  have flag := FieldType.optional_alike_of_eq FieldType.flag places
    (Json.lookup_eq_of_likeFields alike (by decide : "unsafe" ∉ _))
  have name := FieldType.optional_alike_of_eq FieldType.text places
    (Json.lookup_eq_of_likeFields alike (by decide : "name" ∉ _))
  have functions := FieldType.payloads_alike places alike (.inl rfl)
  have conditions := FieldType.payloads_alike places alike (.inr rfl)
  refine flag.bind fun flagged _ same => name.bind fun named _ same' =>
    functions.bind fun called called' calls => conditions.bind fun bound bound' bounds => ?_
  refine .ok ?_
  rw [Like]
  exact ⟨types, same.symm, same'.symm, held, forall₂_getD calls, forall₂_getD bounds⟩

mutual

theorem ofJson_alike {location location' : String} (places : like.Places location location') :
    (value : Json) → {other : Json} → value.LikeDrop like other →
      Alike like.failure (Like like) (ofJson location value) (ofJson location' other)
  | .obj fields, _, alike => by
    rw [Json.LikeDrop] at alike
    obtain ⟨fields', rfl, alike⟩ := alike
    have typed := Json.lookup_of_likeFields alike "type"
    have held := readChildren_alike places fields alike
    have untyped : Alike like.failure (Like like)
        (.error (.shape (location ++ ".type") "required string"))
        (.error (.shape (location' ++ ".type") "required string")) :=
      .error ((places.append ".type").failure _)
    rw [ofJson, ofJson]
    generalize fields.lookup "type" = value, fields'.lookup "type" = other at typed
    cases typed with
    | none => exact untyped
    | @some value other field =>
      have texts := Json.likeText_of_likeField field
      cases value with
      | str type =>
        obtain ⟨type', rfl, types⟩ := texts
        obtain ⟨children, children', read, read', same⟩ | ⟨f, g, failed, failed', same⟩ :=
          held.cases_of
        · simp only [read, read']
          exact withFields_alike places types same alike
        · simp only [failed, failed']
          exact .error same
      | _ =>
        cases texts
        exact untyped
  | .null, _, alike | .bool _, _, alike | .int _, _, alike | .double _, _, alike
  | .str _, _, alike | .arr _, _, alike => by
    rw [Json.LikeDrop] at alike
    · rw [alike]
      exact .error (places.failure _)
    · nofun

theorem readChildren_alike {location location' : String}
    (places : like.Places location location') :
    (fields : List (String × Json)) → {fields' : List (String × Json)} →
      Json.LikeFields like fields fields' →
      Alike like.failure (LikeChildren like) (readChildren location fields)
        (readChildren location' fields')
  | [], _, alike => by
    rw [Json.LikeFields] at alike
    rw [alike]
    exact .ok (by rw [LikeChildren])
  | (key, value) :: rest, _, alike => by
    rw [Json.LikeFields] at alike
    obtain ⟨value', rest', rfl, first, later⟩ := alike
    unfold readChildren
    by_cases here : key = "children"
    · subst here
      rw [if_pos rfl, if_pos rfl]
      cases value with
      | arr items =>
        rw [Json.LikeField, if_pos rfl] at first
        obtain ⟨items', rfl, same⟩ := first
        obtain ⟨shapes, shapes', read, read', same⟩ | ⟨f, g, failed, failed', same⟩ :=
          (readItems_alike (places.append ".children") 0 items same).cases_of
        · simp only [read, read']
          refine .ok ?_
          rw [LikeChildren]
          exact ⟨shapes', rfl, same⟩
        · simp only [failed, failed']
          exact .error same
      | null =>
        have null : value' = .null := by simpa [Json.LikeField] using first
        rw [null]
        exact .ok (by rw [LikeChildren])
      | _ =>
        simp only [Json.LikeField, String.reduceEq, if_false] at first
        rw [first]
        exact FieldType.refuse_alike FieldType.list places
    · rw [if_neg here, if_neg here]
      exact readChildren_alike places rest later

theorem readItems_alike {location location' : String} (places : like.Places location location')
    (index : Nat) :
    (items : List Json) → {items' : List Json} → Json.LikeDrops like items items' →
      Alike like.failure (LikeAll like) (readItems location index items)
        (readItems location' index items')
  | [], _, alike => by
    rw [Json.LikeDrops] at alike
    rw [alike]
    exact .ok (by rw [LikeAll])
  | item :: rest, _, alike => by
    rw [Json.LikeDrops] at alike
    obtain ⟨item', rest', rfl, first, later⟩ := alike
    have place := ((places.append "[").append (toString index)).append "]"
    rw [readItems, readItems]
    obtain ⟨shape, shape', read, read', same⟩ | ⟨f, g, failed, failed', same⟩ :=
      (ofJson_alike place item first).cases_of
    · simp only [read, read']
      obtain ⟨shapes, shapes', read, read', others⟩ | ⟨f, g, failed, failed', others⟩ :=
        (readItems_alike places (index + 1) rest later).cases_of
      · simp only [read, read']
        exact .ok ⟨shape', shapes', rfl, same, others⟩
      · simp only [failed, failed']
        exact .error others
    · simp only [failed, failed']
      exact .error same

end

end DropShape

/-! ## Judging -/

theorem DropKind.ofJson_alike {type type' : String} (types : like.text type type') :
    Alike like.failure Eq (ofJson (.str type)) (ofJson (.str type')) := by
  unfold ofJson Identifier.ofJson
  obtain ⟨id, _, read, read', rfl⟩ | ⟨cause, cause', failed, failed', same⟩ :=
    (like.parse types).cases_of
  · simp only [read, read']
    have unknown : Alike (α := DropKind) like.failure Eq
        (.error (.script .unknownDropType (.str type)))
        (.error (.script .unknownDropType (.str type'))) :=
      .error (like.script .unknownDropType types)
    split
    · exact unknown
    · split
      · exact .ok rfl
      · exact unknown
  · simp only [failed, failed']
    exact .error (like.scriptBy .dropType types same)

namespace Drop

theorem make_alike {kind : DropKind} {flagged : Bool} {name : Option String}
    {children children' : Option (List Drop)}
    {functions functions' conditions conditions' : List Json}
    (held : LikeChildren like children children')
    (calls : List.Forall₂ like.payload functions functions')
    (bounds : List.Forall₂ like.payload conditions conditions') :
    Alike like.failure (Like like) (make kind flagged name children functions conditions)
      (make kind flagged name children' functions' conditions') := by
  unfold make makeRefusing
  split
  · refine .ok ?_
    rw [Like]
    exact ⟨rfl, rfl, held, calls, bounds⟩
  · exact .error (like.script .unsafeFlag (like.text_refl _))

mutual

theorem ofShape_alike : (shape : DropShape) → {shape' : DropShape} → shape.Like like shape' →
    Alike like.failure (Like like) (ofShape shape) (ofShape shape')
  | ⟨type, flagged, name, children, functions, conditions⟩,
      ⟨type', flagged', name', children', functions', conditions'⟩, alike => by
    rw [DropShape.Like] at alike
    obtain ⟨types, rfl, rfl, held, calls, bounds⟩ := alike
    rw [ofShape_node, ofShape_node]
    obtain ⟨kind, _, read, read', rfl⟩ | ⟨f, g, failed, failed', same⟩ :=
      (DropKind.ofJson_alike types).cases_of
    · simp only [read, read']
      split
      · exact .error (like.script .unsafeFlag types)
      · cases children with
        | none =>
          rw [DropShape.LikeChildren] at held
          cases held
          exact make_alike (by rw [LikeChildren]) calls bounds
        | some shapes =>
          rw [DropShape.LikeChildren] at held
          obtain ⟨shapes', rfl, same⟩ := held
          dsimp only
          split
          · exact .error (like.script .dropLayout types)
          · obtain ⟨drops, drops', judged, judged', same⟩ | ⟨f, g, failed, failed', same⟩ :=
              (ofShapes_alike shapes same).cases_of
            · simp only [judged, judged']
              exact make_alike (by rw [LikeChildren]; exact ⟨drops', rfl, same⟩) calls bounds
            · simp only [failed, failed']
              exact .error same
    · simp only [failed, failed']
      exact .error same

theorem ofShapes_alike : (shapes : List DropShape) → {shapes' : List DropShape} →
    DropShape.LikeAll like shapes shapes' →
    Alike like.failure (LikeAll like) (ofShapes shapes) (ofShapes shapes')
  | [], _, alike => by
    rw [DropShape.LikeAll] at alike
    rw [alike]
    exact .ok (by rw [LikeAll])
  | shape :: rest, _, alike => by
    rw [DropShape.LikeAll] at alike
    obtain ⟨shape', rest', rfl, first, later⟩ := alike
    rw [ofShapes_node, ofShapes_node]
    obtain ⟨drop, drop', judged, judged', same⟩ | ⟨f, g, failed, failed', same⟩ :=
      (ofShape_alike shape first).cases_of
    · simp only [judged, judged']
      obtain ⟨drops, drops', judged, judged', others⟩ | ⟨f, g, failed, failed', others⟩ :=
        (ofShapes_alike rest later).cases_of
      · simp only [judged, judged']
        refine .ok ?_
        rw [LikeAll]
        exact ⟨drop', drops', rfl, same, others⟩
      · simp only [failed, failed']
        exact .error others
    · simp only [failed, failed']
      exact .error same

end

end Drop

/-! ## Writing -/

namespace Json

theorem LikeFields.append {fields fields' others others' : List (String × Json)}
    (first : LikeFields like fields fields') (later : LikeFields like others others') :
    LikeFields like (fields ++ others) (fields' ++ others') := by
  induction fields generalizing fields' with
  | nil =>
    rw [LikeFields] at first
    rw [first]
    exact later
  | cons field rest ih =>
    obtain ⟨key, value⟩ := field
    rw [LikeFields] at first
    obtain ⟨value', rest', rfl, here, after⟩ := first
    rw [List.cons_append, LikeFields]
    exact ⟨value', rest' ++ others', rfl, here, ih after⟩

theorem likeFields_nil : LikeFields like [] [] := by rw [LikeFields]

theorem likeFields_singleton {key : String} {value value' : Json}
    (alike : LikeField like key value value') :
    LikeFields like [(key, value)] [(key, value')] := by
  rw [LikeFields]
  exact ⟨value', [], rfl, alike, likeFields_nil⟩

end Json

namespace Drop

theorem fieldUnlessEmpty_alike {key : String} {items items' : List Json}
    (payload : key = "functions" ∨ key = "conditions")
    (alike : List.Forall₂ like.payload items items') :
    Json.LikeFields like (fieldUnlessEmpty key items) (fieldUnlessEmpty key items') := by
  cases alike with
  | nil => exact Json.likeFields_nil
  | cons first rest =>
    refine Json.likeFields_singleton ?_
    have written : Json.LikeList like.payload (.arr (_ :: _)) (.arr (_ :: _)) :=
      ⟨_, rfl, .cons first rest⟩
    rcases payload with rfl | rfl <;> simpa [Json.LikeField] using written

mutual

theorem toJson_alike : (drop : Drop) → {drop' : Drop} → drop.Like like drop' →
    drop.toJson.LikeDrop like drop'.toJson
  | ⟨kind, name, children, functions, conditions⟩,
      ⟨kind', name', children', functions', conditions'⟩, alike => by
    rw [Like] at alike
    obtain ⟨rfl, rfl, held, calls, bounds⟩ := alike
    unfold toJson
    rw [Json.LikeDrop]
    refine ⟨_, rfl, ?_⟩
    have typed : Json.LikeFields like [("type", .str kind'.text)] [("type", .str kind'.text)] :=
      Json.likeFields_singleton (by simpa [Json.LikeField, Json.LikeText] using like.text_refl _)
    have flag : Json.LikeFields like (if kind'.isComposite then [("unsafe", .bool true)] else [])
        (if kind'.isComposite then [("unsafe", .bool true)] else []) := by
      split
      · exact Json.likeFields_singleton (by simp [Json.LikeField])
      · exact Json.likeFields_nil
    refine ((((typed.append flag).append ?_).append ?_).append
      (fieldUnlessEmpty_alike (.inl rfl) calls)).append (fieldUnlessEmpty_alike (.inr rfl) bounds)
    · cases name' with
      | none => exact Json.likeFields_nil
      | some name => exact Json.likeFields_singleton (by simp [Json.LikeField])
    · cases children with
      | none =>
        rw [LikeChildren] at held
        cases held
        exact Json.likeFields_nil
      | some drops =>
        rw [LikeChildren] at held
        obtain ⟨drops', rfl, same⟩ := held
        have items := toJsons_alike drops same
        exact Json.likeFields_singleton (by simpa [Json.LikeField] using items)

theorem toJsons_alike : (drops : List Drop) → {drops' : List Drop} → LikeAll like drops drops' →
    Json.LikeDrops like (toJsons drops) (toJsons drops')
  | [], _, alike => by
    rw [LikeAll] at alike
    rw [alike, toJsons, Json.LikeDrops]
  | drop :: rest, _, alike => by
    rw [LikeAll] at alike
    obtain ⟨drop', rest', rfl, first, later⟩ := alike
    rw [toJsons, toJsons, Json.LikeDrops]
    exact ⟨_, _, rfl, toJson_alike drop first, toJsons_alike rest later⟩

end

end Drop

end LootScript
