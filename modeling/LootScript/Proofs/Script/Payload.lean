import LootScript.Proofs.Likeness.Compilation

/-!
# Payloads are opaque

The functions and conditions of drops are carried through and never looked at. Changing each of
them, in all drops at every depth, may be done before or after any stage: reading, resolving,
compiling, absorbing, removing, combining and writing. The results are the same, and so are the
failures.
-/
namespace LootScript

namespace Json

mutual

/-- Changes the items of the functions and conditions of a written drop, at every depth. -/
def mapDropPayloads (change : Json → Json) : Json → Json
  | .obj fields => .obj (mapFieldsPayloads change fields)
  | value => value

def mapFieldsPayloads (change : Json → Json) : List (String × Json) → List (String × Json)
  | [] => []
  | (key, value) :: rest =>
    (key, mapFieldPayloads change key value) :: mapFieldsPayloads change rest

def mapFieldPayloads (change : Json → Json) (key : String) : Json → Json
  | .arr items =>
    if key = "children" then .arr (mapDropsPayloads change items)
    else if key = "functions" ∨ key = "conditions" then .arr (items.map change)
    else .arr items
  | value => value

def mapDropsPayloads (change : Json → Json) : List Json → List Json
  | [] => []
  | item :: rest => mapDropPayloads change item :: mapDropsPayloads change rest

end

def mapPoolsPayloads (change : Json → Json) : Json → Json
  | .obj pools => .obj (pools.map fun pool => (pool.1, pool.2.mapDropPayloads change))
  | value => value

/-- Changes the payloads of a written script. -/
def mapScriptPayloads (change : Json → Json) : Json → Json
  | .obj fields => .obj (fields.map fun field =>
      (field.1, if field.1 = "pools" then field.2.mapPoolsPayloads change else field.2))
  | value => value

end Json

mutual

def Drop.mapPayloads (change : Json → Json) : Drop → Drop
  | ⟨kind, name, children, functions, conditions⟩ =>
    ⟨kind, name, Drop.mapChildrenPayloads change children, functions.map change,
      conditions.map change⟩

def Drop.mapChildrenPayloads (change : Json → Json) : Option (List Drop) → Option (List Drop)
  | none => none
  | some drops => some (Drop.mapAllPayloads change drops)

def Drop.mapAllPayloads (change : Json → Json) : List Drop → List Drop
  | [] => []
  | drop :: rest => Drop.mapPayloads change drop :: Drop.mapAllPayloads change rest

end

def Script.mapPayloads (change : Json → Json) (script : Script) : Script :=
  { script with pools := script.pools.mapValues (Drop.mapPayloads change) }

def Registry.mapPayloads (change : Json → Json) (definitions : Registry) : Registry :=
  OrderedMap.mapValues (Json.mapScriptPayloads change) definitions

/-- A source with the same definitions, but for their payloads. -/
def Source.mapPayloads (change : Json → Json) (source : Source) : Source where
  lookup id := (source.lookup id).map (Option.map (Json.mapScriptPayloads change))
  finite := by
    obtain ⟨definitions, covers⟩ := source.finite
    refine ⟨definitions.map (Json.mapScriptPayloads change), fun id definition found => ?_⟩
    obtain ⟨given, looked, mapped⟩ := map_eq_ok_iff.mp found
    obtain ⟨original, rfl, rfl⟩ := Option.map_eq_some_iff.mp mapped
    exact List.mem_map_of_mem (covers id original looked)

/-! ## Changed payloads as a likeness -/

/-- Like payloads are what the change makes of one another. -/
def Likeness.IsChange (like : Likeness) (change : Json → Json) : Prop :=
  ∀ value other, like.payload value other ↔ other = change value

/-- What differs is the change of payloads only. -/
def Likeness.ofChange (change : Json → Json) : Likeness :=
  .ofPayloads fun value other => other = change value

variable {change : Json → Json}

/-- A relation that determines the second list item by item. -/
theorem forall₂_iff_eq_map {α β : Type} {same : α → β → Prop} {f : α → β}
    (determined : ∀ x y, same x y ↔ y = f x) {xs : List α} {ys : List β} :
    List.Forall₂ same xs ys ↔ ys = xs.map f := by
  induction xs generalizing ys with
  | nil => cases ys <;> simp
  | cons x rest ih =>
    cases ys with
    | nil => simp
    | cons y ys => rw [List.forall₂_cons, determined, ih, List.map_cons, List.cons.injEq]

theorem forall₂_payload_iff {items items' : List Json} :
    List.Forall₂ (Likeness.ofChange change).payload items items' ↔ items' = items.map change :=
  forall₂_iff_eq_map fun _ _ => Iff.rfl

/-- What is made of two things that are determined is determined. -/
theorem exists_and_eq_iff {α β γ : Type} (make : α → β → γ) {a : α} {b : β} {other : γ} :
    (∃ a' b', other = make a' b' ∧ a' = a ∧ b' = b) ↔ other = make a b := by
  constructor
  · rintro ⟨_, _, rfl, rfl, rfl⟩
    rfl
  · intro made
    exact ⟨a, b, made, rfl, rfl⟩

namespace Json

mutual

theorem likeDrop_iff : (value : Json) → {other : Json} →
    (value.LikeDrop (.ofChange change) other ↔ other = value.mapDropPayloads change)
  | .obj fields, other => by
    rw [LikeDrop, mapDropPayloads]
    simp only [likeFields_iff fields, exists_eq_right]
  | .null, _ | .bool _, _ | .int _, _ | .double _, _ | .str _, _ | .arr _, _ => by
    simp [LikeDrop, mapDropPayloads]

theorem likeFields_iff : (fields : List (String × Json)) → {others : List (String × Json)} →
    (LikeFields (.ofChange change) fields others ↔ others = mapFieldsPayloads change fields)
  | [], others => by rw [LikeFields, mapFieldsPayloads]
  | (key, value) :: rest, others => by
    rw [LikeFields, mapFieldsPayloads]
    simp only [likeField_iff key value, likeFields_iff rest]
    exact exists_and_eq_iff fun value' rest' => (key, value') :: rest'

theorem likeField_iff (key : String) : (value : Json) → {other : Json} →
    (LikeField (.ofChange change) key value other ↔ other = mapFieldPayloads change key value)
  | .arr items, other => by
    rw [LikeField, mapFieldPayloads]
    split
    · simp only [likeDrops_iff items, exists_eq_right]
    · split
      · simp only [LikeList, forall₂_payload_iff, exists_eq_right]
      · rfl
  | .str text, other => by
    simp [LikeField, mapFieldPayloads, LikeText, Likeness.ofChange, Likeness.ofPayloads]
  | .null, _ | .bool _, _ | .int _, _ | .double _, _ | .obj _, _ => by
    simp [LikeField, mapFieldPayloads, LikeText]

theorem likeDrops_iff : (items : List Json) → {others : List Json} →
    (LikeDrops (.ofChange change) items others ↔ others = mapDropsPayloads change items)
  | [], others => by rw [LikeDrops, mapDropsPayloads]
  | item :: rest, others => by
    rw [LikeDrops, mapDropsPayloads]
    simp only [likeDrop_iff item, likeDrops_iff rest]
    exact exists_and_eq_iff List.cons

end

theorem likePools_iff {value other : Json} :
    LikeObject (fun pool pool' => (Likeness.ofChange change).text pool.1 pool'.1 ∧
        pool.2.LikeDrop (.ofChange change) pool'.2) value other ↔
      other = value.mapPoolsPayloads change := by
  cases value with
  | obj pools =>
    rw [LikeObject, mapPoolsPayloads]
    have determined (pool pool' : String × Json) :
        (Likeness.ofChange change).text pool.1 pool'.1 ∧
          pool.2.LikeDrop (.ofChange change) pool'.2 ↔
        pool' = (pool.1, pool.2.mapDropPayloads change) := by
      rw [likeDrop_iff, Prod.ext_iff]
      exact and_congr_left' eq_comm
    simp only [forall₂_iff_eq_map determined, exists_eq_right]
  | _ => rfl

theorem likeText_iff {value other : Json} :
    value.LikeText (.ofChange change) other ↔ other = value := by
  cases value with
  | str text =>
    rw [LikeText]
    constructor
    · rintro ⟨_, rfl, rfl⟩
      rfl
    · rintro rfl
      exact ⟨text, rfl, rfl⟩
  | _ => rfl

theorem likeScriptField_iff {key : String} {value other : Json} :
    LikeScriptField (.ofChange change) key value other ↔
      other = if key = "pools" then value.mapPoolsPayloads change else value := by
  rw [LikeScriptField]
  split
  · exact likePools_iff
  · split
    · cases value with
      | arr items =>
        have same (item item' : Json) :
            item.LikeText (.ofChange change) item' ↔ item' = id item := likeText_iff
        simp only [LikeList, forall₂_iff_eq_map same, List.map_id, exists_eq_right]
      | _ => rfl
    · split
      · exact likeText_iff
      · rfl

theorem likeScript_iff {value other : Json} :
    value.LikeScript (.ofChange change) other ↔ other = value.mapScriptPayloads change := by
  cases value with
  | obj fields =>
    rw [LikeScript, LikeObject, mapScriptPayloads]
    have determined (field field' : String × Json) :
        field'.1 = field.1 ∧ LikeScriptField (.ofChange change) field.1 field.2 field'.2 ↔
        field' = (field.1, if field.1 = "pools" then field.2.mapPoolsPayloads change
          else field.2) := by
      rw [likeScriptField_iff, Prod.ext_iff]
    simp only [forall₂_iff_eq_map determined, exists_eq_right]
  | _ => rfl

end Json

namespace Drop

mutual

/-- Drops are alike if one is the other with its payloads changed. -/
theorem like_iff {like : Likeness} (determined : like.IsChange change) : (drop : Drop) →
    {other : Drop} → (drop.Like like other ↔ other = drop.mapPayloads change)
  | ⟨kind, name, children, functions, conditions⟩,
      ⟨kind', name', children', functions', conditions'⟩ => by
    rw [Like, mapPayloads]
    simp only [likeChildren_iff determined children, forall₂_iff_eq_map determined,
      Drop.mk.injEq]

theorem likeChildren_iff {like : Likeness} (determined : like.IsChange change) :
    (children : Option (List Drop)) → {others : Option (List Drop)} →
      (LikeChildren like children others ↔ others = mapChildrenPayloads change children)
  | none, others => by rw [LikeChildren, mapChildrenPayloads]
  | some drops, others => by
    rw [LikeChildren, mapChildrenPayloads]
    simp only [likeAll_iff determined drops, exists_eq_right]

theorem likeAll_iff {like : Likeness} (determined : like.IsChange change) :
    (drops : List Drop) → {others : List Drop} →
      (LikeAll like drops others ↔ others = mapAllPayloads change drops)
  | [], others => by rw [LikeAll, mapAllPayloads]
  | drop :: rest, others => by
    rw [LikeAll, mapAllPayloads]
    simp only [like_iff determined drop, likeAll_iff determined rest]
    exact exists_and_eq_iff List.cons

end

mutual

theorem mapPayloads_id : (drop : Drop) → drop.mapPayloads id = drop
  | ⟨kind, name, children, functions, conditions⟩ => by
    rw [mapPayloads, mapChildrenPayloads_id children, List.map_id, List.map_id]

theorem mapChildrenPayloads_id : (children : Option (List Drop)) →
    mapChildrenPayloads id children = children
  | none => by rw [mapChildrenPayloads]
  | some drops => by rw [mapChildrenPayloads, mapAllPayloads_id drops]

theorem mapAllPayloads_id : (drops : List Drop) → mapAllPayloads id drops = drops
  | [] => by rw [mapAllPayloads]
  | drop :: rest => by rw [mapAllPayloads, mapPayloads_id drop, mapAllPayloads_id rest]

end

/-- Where payloads are alike only if they are the same, so are drops. -/
theorem like_iff_eq {like : Likeness}
    (same : like.IsChange id) {drop other : Drop} : drop.Like like other ↔ other = drop := by
  rw [like_iff same, mapPayloads_id]

end Drop

theorem Reference.eq_of_raw_eq {one other : Reference} (same : one.raw = other.raw) :
    other = one := by
  have read := parse_raw one
  rw [same, parse_raw other] at read
  exact Except.ok.inj read

theorem Script.likeBase_iff {base base' : Option Reference} :
    Option.Rel (fun reference reference' =>
        (Likeness.ofChange change).text reference.raw reference'.raw) base base' ↔
      base' = base := by
  constructor
  · rintro (same | _)
    · exact congrArg some (Reference.eq_of_raw_eq same)
    · rfl
  · rintro rfl
    cases base' with
    | none => exact .none
    | some reference => exact .some rfl

theorem Script.like_iff {script other : Script} :
    script.Like (.ofChange change) other ↔ other = script.mapPayloads change := by
  have drops : Drop.Like (.ofChange change) = fun drop drop' => drop' = drop.mapPayloads change :=
    funext fun drop => funext fun drop' => propext (Drop.like_iff (fun _ _ => Iff.rfl) drop)
  constructor
  · rintro ⟨kind, base, pools, removals⟩
    rw [drops, OrderedMap.related_iff_mapValues] at pools
    obtain ⟨kind', base', pools', removals'⟩ := other
    simp only at kind base pools removals
    rw [kind, likeBase_iff.mp base, pools, removals]
    rfl
  · rintro rfl
    refine ⟨rfl, likeBase_iff.mpr rfl, ?_, rfl⟩
    rw [drops, OrderedMap.related_iff_mapValues]
    rfl

theorem Registry.like_iff {definitions other : Registry} :
    definitions.Like (.ofChange change) other ↔ other = definitions.mapPayloads change := by
  have same : Json.LikeScript (.ofChange change) =
      fun value other => other = value.mapScriptPayloads change :=
    funext fun value => funext fun other => propext Json.likeScript_iff
  rw [Like, same]
  exact OrderedMap.related_iff_mapValues (Json.mapScriptPayloads change)

/-! ## Changing payloads before or after -/

theorem Script.eq_map_of_alike {one other : Except Failure Script}
    (alike : Alike (Likeness.ofChange change).failure (Like (.ofChange change)) one other) :
    other = one.map (mapPayloads change) :=
  Alike.eq_map (alike.mono fun _ _ => like_iff.mp)

theorem Registry.ofEntries_map (change : Json → Json) (entries : List (String × Json)) :
    ofEntries (entries.map fun entry => (entry.1, entry.2.mapScriptPayloads change)) =
      (ofEntries entries).map (mapPayloads change) := by
  have alike : List.Forall₂ (fun entry entry' => (Likeness.ofChange change).text entry.1 entry'.1 ∧
      entry.2.LikeScript (.ofChange change) entry'.2) entries
      (entries.map fun entry => (entry.1, entry.2.mapScriptPayloads change)) := by
    rw [List.forall₂_map_right_iff, List.forall₂_same]
    exact fun entry _ => ⟨rfl, Json.likeScript_iff.mpr rfl⟩
  exact Alike.eq_map ((ofEntries_alike alike).mono fun _ _ => like_iff.mp)

theorem Source.like_mapPayloads (source : Source) :
    source.Like (.ofChange change) (source.mapPayloads change) := by
  intro id
  show Alike _ _ _ ((source.lookup id).map _)
  cases source.lookup id with
  | error failure => exact .error rfl
  | ok found =>
    refine .ok ?_
    cases found with
    | none => exact .none
    | some definition => exact .some (Json.likeScript_iff.mpr rfl)

theorem Source.ext_lookup {one other : Source} (same : one.lookup = other.lookup) :
    one = other := by
  cases one
  cases other
  cases same
  rfl

theorem Store.present_map (found : Option Json) :
    present (found.map (Json.mapScriptPayloads change)) =
      (present found).map (Json.mapScriptPayloads change) := by
  cases found with
  | none => rfl
  | some value => cases value <;> rfl

theorem Store.source_mapPayloads (files : FileTree) (definitions : Registry) :
    (Store.registry (definitions.mapPayloads change)).source files =
      ((Store.registry definitions).source files).mapPayloads change := by
  refine Source.ext_lookup (funext fun id => congrArg Except.ok ?_)
  rw [Registry.mapPayloads, OrderedMap.find?_mapValues, present_map]

theorem Source.resolveText_mapPayloads (source : Source) (raw : Json) :
    (source.mapPayloads change).resolveText raw =
      (source.resolveText raw).map (Script.mapPayloads change) := by
  refine Script.eq_map_of_alike ?_
  unfold resolveText
  cases Reference.ofJson raw with
  | error failure => exact .error rfl
  | ok reference => exact resolve_alike source.like_mapPayloads reference.identifier rfl

/--
Changing all payloads commutes with every stage, over every source: the same failures, and the same
results but for the payloads.
-/
theorem Script.payloads_opaque (change : Json → Json) (source : Source) :
    let map := mapPayloads change
    let mapped := source.mapPayloads change
    (∀ value : Json, ofJson (value.mapScriptPayloads change) = (ofJson value).map map) ∧
    (∀ entries, Registry.ofEntries
        (entries.map fun entry => (entry.1, entry.2.mapScriptPayloads change)) =
      (Registry.ofEntries entries).map (Registry.mapPayloads change)) ∧
    (∀ (files : FileTree) (definitions : Registry),
      (Store.registry (definitions.mapPayloads change)).source files =
        ((Store.registry definitions).source files).mapPayloads change) ∧
    (∀ raw, mapped.resolveText raw = (source.resolveText raw).map map) ∧
    (∀ script, (map script).compile mapped = (script.compile source).map map) ∧
    (∀ script other, (map script).absorb (map other) = map (script.absorb other)) ∧
    (∀ script, (map script).applyRemovals = map script.applyRemovals) ∧
    (∀ scripts, combine (scripts.map map) mapped = (combine scripts source).map map) ∧
    (∀ script, (map script).toJson = script.toJson.mapScriptPayloads change) := by
  intro map mapped
  have sources : source.Like (.ofChange change) mapped := source.like_mapPayloads
  have here (script : Script) : script.Like (.ofChange change) (map script) := like_iff.mpr rfl
  have each (scripts : List Script) :
      List.Forall₂ (Like (.ofChange change)) scripts (scripts.map map) := by
    rw [List.forall₂_map_right_iff, List.forall₂_same]
    exact fun script _ => here script
  refine ⟨?ofJson, Registry.ofEntries_map change, Store.source_mapPayloads,
    source.resolveText_mapPayloads, ?compile, ?absorb, ?applyRemovals, ?combine, ?toJson⟩
  case ofJson => exact fun value => eq_map_of_alike (ofJson_alike (Json.likeScript_iff.mpr rfl))
  case compile => exact fun script => eq_map_of_alike (compile_alike sources (here script))
  case absorb => exact fun script other => like_iff.mp ((here script).absorb (here other))
  case applyRemovals => exact fun script => like_iff.mp (here script).applyRemovals
  case combine => exact fun scripts => eq_map_of_alike (combine_alike sources (each scripts))
  case toJson => exact fun script => Json.likeScript_iff.mp (toJson_alike (here script))

end LootScript
