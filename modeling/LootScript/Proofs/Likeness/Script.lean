import LootScript.Proofs.Likeness.Drop
import LootScript.Proofs.OrderedMap
import LootScript.Script.Basic

/-!
# Like scripts

Scripts are like one another, as they are written, in their shapes or judged, if they say the same
but for the texts of identifiers and for the payloads of their drops. A judged script keeps a text
only in the reference to its base script. Reading, writing, absorbing and removing keep scripts
alike.
-/
namespace LootScript

namespace Json

def LikeScriptField (like : Likeness) (key : String) (value other : Json) : Prop :=
  if key = "pools" then
    LikeObject (fun pool pool' => like.text pool.1 pool'.1 ∧ pool.2.LikeDrop like pool'.2)
      value other
  else if key = "remove" then LikeList (LikeText like) value other
  else if key = "extend" then LikeText like value other
  else other = value

/-- Like scripts, as they are written. -/
def LikeScript (like : Likeness) : Json → Json → Prop :=
  LikeObject fun field field' =>
    field'.1 = field.1 ∧ LikeScriptField like field.1 field.2 field'.2

end Json

structure ScriptShape.Like (like : Likeness) (one other : ScriptShape) : Prop where
  type : other.type = one.type
  extend : Option.Rel like.text one.extend other.extend
  pools : List.Forall₂ (fun pool pool' => like.text pool.1 pool'.1 ∧ pool.2.Like like pool'.2)
    one.pools other.pools
  remove : List.Forall₂ like.text one.remove other.remove

structure Script.Like (like : Likeness) (one other : Script) : Prop where
  kind : other.kind = one.kind
  base : Option.Rel (fun reference reference' => like.text reference.raw reference'.raw)
    one.base other.base
  pools : OrderedMap.Related (Drop.Like like) one.pools other.pools
  removals : other.removals = one.removals

variable {like : Likeness}

/-! ## Reading -/

theorem Json.lookup_of_likeScriptFields {fields fields' : List (String × Json)}
    (alike : List.Forall₂ (fun field field' => field'.1 = field.1 ∧
      LikeScriptField like field.1 field.2 field'.2) fields fields') (key : String) :
    Option.Rel (LikeScriptField like key) (fields.lookup key) (fields'.lookup key) := by
  induction alike with
  | nil => exact .none
  | @cons field field' rest rest' first _ ih =>
    rw [List.lookup_cons, List.lookup_cons, first.1]
    cases same : key == field.1 with
    | false => exact ih
    | true =>
      rw [eq_of_beq same]
      exact .some first.2

theorem Json.lookup_eq_of_likeScriptFields {fields fields' : List (String × Json)}
    (alike : List.Forall₂ (fun field field' => field'.1 = field.1 ∧
      LikeScriptField like field.1 field.2 field'.2) fields fields') {key : String}
    (plain : key ∉ ["pools", "remove", "extend"]) : fields'.lookup key = fields.lookup key := by
  simp only [List.mem_cons, List.not_mem_nil, or_false, not_or] at plain
  have found := lookup_of_likeScriptFields alike key
  generalize fields.lookup key = value, fields'.lookup key = other at found
  cases found with
  | none => rfl
  | some field =>
    rw [LikeScriptField, if_neg plain.1, if_neg plain.2.1, if_neg plain.2.2] at field
    rw [field]

namespace ScriptShape

theorem readPools_alike {pools pools' : List (String × Json)}
    (alike : List.Forall₂ (fun pool pool' => like.text pool.1 pool'.1 ∧
      pool.2.LikeDrop like pool'.2) pools pools') :
    Alike like.failure (List.Forall₂ fun pool pool' => like.text pool.1 pool'.1 ∧
        pool.2.Like like pool'.2)
      (readPools pools) (readPools pools') := by
  induction alike with
  | nil => exact .ok .nil
  | @cons pool pool' rest rest' first _ ih =>
    obtain ⟨key, value⟩ := pool
    obtain ⟨key', value'⟩ := pool'
    obtain ⟨texts, drops⟩ := first
    have read := DropShape.ofJson_alike (Likeness.places_pool texts) value drops
    exact read.bind fun _ _ shapes => ih.bind fun _ _ others => .ok (.cons ⟨texts, shapes⟩ others)

theorem readRemovals_alike {items items' : List Json} (index : Nat)
    (alike : List.Forall₂ (Json.LikeText like) items items') :
    Alike like.failure (List.Forall₂ like.text) (readRemovals index items)
      (readRemovals index items') := by
  induction alike generalizing index with
  | nil => exact .ok .nil
  | @cons item item' rest rest' first _ ih =>
    cases item with
    | str text =>
      obtain ⟨text', rfl, texts⟩ := first
      exact (ih (index + 1)).map fun _ _ others => .cons texts others
    | _ =>
      cases first
      exact .error (like.shape _ _)

theorem ofJson_alike {value other : Json} (alike : value.LikeScript like other) :
    Alike like.failure (Like like) (ofJson value) (ofJson other) := by
  cases value with
  | obj fields =>
    obtain ⟨fields', rfl, alike⟩ := alike
    have found := Json.lookup_of_likeScriptFields alike
    have place : like.Places "script" "script" := Likeness.places_refl "script"
    have pools := FieldType.optional_alike place FieldType.object_readsAlike rfl (found "pools")
    have remove := FieldType.optional_alike place FieldType.list_readsAlike rfl (found "remove")
    have extend := FieldType.optional_alike place FieldType.text_readsAlike rfl (found "extend")
    have kind := FieldType.optional_alike_of_eq FieldType.text place
      (Json.lookup_eq_of_likeScriptFields alike (by decide : "type" ∉ _))
    exact pools.bind fun _ _ pools => (readPools_alike (forall₂_getD pools)).bind fun _ _ pools =>
      remove.bind fun _ _ remove =>
      (readRemovals_alike 0 (forall₂_getD remove)).bind fun _ _ remove =>
      kind.bind fun _ _ kind => extend.bind fun _ _ extend =>
      .ok ⟨kind.symm, extend, pools, remove⟩
  | _ =>
    cases alike
    exact .error (like.shape _ _)

end ScriptShape

/-! ## Judging -/

namespace Reference

/-- References that are like texts mean the same base script. -/
theorem identifier_eq {reference reference' : Reference}
    (texts : like.text reference.raw reference'.raw) :
    reference'.identifier = reference.identifier := by
  have parsed := like.parse texts
  rw [reference.parsed, reference'.parsed] at parsed
  cases parsed with
  | ok same => exact same.symm

theorem parse_alike {raw raw' : String} (texts : like.text raw raw') :
    Alike like.failure (fun reference reference' => like.text reference.raw reference'.raw)
      (parse raw) (parse raw') := by
  obtain ⟨id, _, parsed, parsed', rfl⟩ | ⟨cause, cause', failed, failed', same⟩ :=
    (like.parse texts).cases_of
  · rw [show parse raw = .ok ⟨raw, id, parsed⟩ from parse_raw ⟨raw, id, parsed⟩,
      show parse raw' = .ok ⟨raw', id, parsed'⟩ from parse_raw ⟨raw', id, parsed'⟩]
    exact .ok texts
  · have refused (written : String) (cause : Failure)
        (failed : Identifier.parse written = .error cause) :
        parse written = .error (.scriptBy .extension (.str written) cause) := by
      unfold parse
      split
      · next read => rw [read] at failed; cases failed
      · next read => rw [read] at failed; cases failed; rfl
    rw [refused raw cause failed, refused raw' cause' failed']
    exact .error (like.scriptBy .extension texts same)

end Reference

namespace Script

theorem readPools_alike {shapes shapes' : List (String × DropShape)}
    {pools pools' : OrderedMap Identifier Drop}
    (alike : List.Forall₂ (fun pool pool' => like.text pool.1 pool'.1 ∧
      pool.2.Like like pool'.2) shapes shapes')
    (before : OrderedMap.Related (Drop.Like like) pools pools') :
    Alike like.failure (OrderedMap.Related (Drop.Like like)) (readPools pools shapes)
      (readPools pools' shapes') := by
  induction alike generalizing pools pools' with
  | nil => exact .ok before
  | @cons pool pool' rest rest' first _ ih =>
    obtain ⟨key, shape⟩ := pool
    obtain ⟨key', shape'⟩ := pool'
    obtain ⟨texts, shapes⟩ := first
    refine (Drop.ofShape_alike shape shapes).bind fun drop drop' drops =>
      (like.parse texts).bind fun id _ same => ?_
    cases same
    exact ih (before.insert id drops)

theorem readBase_alike {extend extend' : Option String}
    (alike : Option.Rel like.text extend extend') :
    Alike like.failure (Option.Rel fun reference reference' =>
        like.text reference.raw reference'.raw)
      (readBase extend) (readBase extend') := by
  cases alike with
  | none => exact .ok .none
  | some texts => exact (Reference.parse_alike texts).map fun _ _ same => .some same

theorem parseAll_alike {texts texts' : List String}
    (alike : List.Forall₂ like.text texts texts') :
    Alike like.failure Eq (Identifier.parseAll texts) (Identifier.parseAll texts') := by
  unfold Identifier.parseAll
  induction alike with
  | nil => exact .ok rfl
  | cons first _ ih =>
    rw [List.mapM_cons, List.mapM_cons]
    refine (like.parse first).bind fun id _ same => ih.bind fun ids _ others => ?_
    cases same
    cases others
    exact .ok rfl

theorem ofShape_alike {shape shape' : ScriptShape} (alike : shape.Like like shape') :
    Alike like.failure (Like like) (ofShape shape) (ofShape shape') :=
  (readPools_alike alike.pools OrderedMap.related_empty).bind fun _ _ pools =>
    (readBase_alike alike.extend).bind fun _ _ base =>
      (parseAll_alike alike.remove).bind fun _ _ removals =>
        .ok ⟨alike.type, base, pools, removals.symm⟩

theorem ofJson_alike {value other : Json} (alike : value.LikeScript like other) :
    Alike like.failure (Like like) (ofJson value) (ofJson other) :=
  (ScriptShape.ofJson_alike alike).bind fun _ _ shapes => ofShape_alike shapes

/-! ## Putting scripts together -/

variable {script script' other other' : Script}

theorem like_empty : empty.Like like empty := ⟨rfl, .none, OrderedMap.related_empty, rfl⟩

theorem Like.absorb (alike : script.Like like script') (others : other.Like like other') :
    (script.absorb other).Like like (script'.absorb other') where
  kind := alike.kind
  base := alike.base
  pools := alike.pools.insertAll others.pools
  removals := by simp only [Script.absorb, alike.removals, others.removals]

theorem Like.overlay (alike : script.Like like script') (others : other.Like like other') :
    (script.overlay other).Like like (script'.overlay other') where
  kind := by simp only [Script.overlay, alike.kind, others.kind]
  base := alike.base
  pools := (alike.absorb others).pools
  removals := (alike.absorb others).removals

theorem Like.applyRemovals (alike : script.Like like script') :
    script.applyRemovals.Like like script'.applyRemovals where
  kind := alike.kind
  base := alike.base
  pools := by
    simp only [Script.applyRemovals, OrderedMap.foldl_erase, alike.removals]
    exact alike.pools.filterKeys _
  removals := alike.removals

/-! ## Writing -/

theorem toJson_alike (alike : script.Like like script') :
    script.toJson.LikeScript like script'.toJson := by
  have pools : List.Forall₂
      (fun pool pool' => like.text pool.1 pool'.1 ∧ pool.2.LikeDrop like pool'.2)
      (script.pools.entries.map fun pool => (pool.1.text, pool.2.toJson))
      (script'.pools.entries.map fun pool => (pool.1.text, pool.2.toJson)) := by
    rw [List.forall₂_map_left_iff, List.forall₂_map_right_iff]
    refine alike.pools.imp fun pool pool' same => ⟨?_, Drop.toJson_alike pool.2 same.2⟩
    rw [same.1]
    exact like.text_refl _
  have removals : List.Forall₂ (Json.LikeText like)
      (script'.removals.map fun id => .str id.text)
      (script'.removals.map fun id => .str id.text) := by
    rw [List.forall₂_same]
    intro item member
    obtain ⟨id, _, rfl⟩ := List.mem_map.mp member
    exact ⟨id.text, rfl, like.text_refl _⟩
  refine ⟨_, rfl, ?_⟩
  refine List.rel_append (List.rel_append (List.rel_append ?kind ?base) ?pools) ?remove
  case kind =>
    rw [alike.kind]
    cases script.kind with
    | none => exact .nil
    | some kind => exact .cons ⟨rfl, by simp [Json.LikeScriptField]⟩ .nil
  case base =>
    have base := alike.base
    generalize script.base = one, script'.base = other at base
    cases base with
    | none => exact .nil
    | some texts => exact .cons ⟨rfl, ⟨_, rfl, texts⟩⟩ .nil
  case pools => exact .cons ⟨rfl, ⟨_, rfl, pools⟩⟩ .nil
  case remove =>
    rw [← alike.removals]
    cases listed : script'.removals with
    | nil => exact .nil
    | cons id rest =>
      rw [listed] at removals
      exact .cons ⟨rfl, ⟨_, rfl, removals⟩⟩ .nil

end Script

end LootScript
