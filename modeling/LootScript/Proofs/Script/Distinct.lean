import LootScript.Extension.Builtin
import LootScript.Proofs.Json.Distinct
import LootScript.Proofs.Likeness.Compilation
import LootScript.Proofs.Script.RoundTrip
import LootScript.Script.File

/-!
# Results without double keys

Payloads come through every stage as they were read, and what was read has no double keys. So a
result can be written without double keys: its payloads have none, its pools are written under
different texts, and no other object of it is given two fields of one key. Payloads that are like
themselves alone, and only if they have no double keys, carry this through the stages.
-/
namespace LootScript

/-- Payloads without double keys are like themselves, and no other payloads are like anything. -/
def Likeness.distinct : Likeness :=
  .ofPayloads fun value other => other = value ∧ value.Distinct

namespace Json

/-! ## What is read -/

theorem likeText_self (value : Json) : value.LikeText .distinct value := by
  cases value with
  | str text => exact ⟨text, rfl, rfl⟩
  | _ => rfl

theorem forall₂_payload_self {items : List Json} (distinct : DistinctItems items) :
    List.Forall₂ Likeness.distinct.payload items items := by
  rw [List.forall₂_same]
  exact fun item mem => ⟨rfl, distinctItems_iff.mp distinct item mem⟩

mutual

theorem likeDrop_self : (value : Json) → value.Distinct → value.LikeDrop .distinct value
  | .obj fields, distinct => by
    rw [LikeDrop]
    exact ⟨fields, rfl, likeFields_self fields distinct.2⟩
  | .null, _ | .bool _, _ | .int _, _ | .double _, _ | .str _, _ | .arr _, _ => by
    rw [LikeDrop]
    all_goals nofun

theorem likeFields_self : (fields : List (String × Json)) → DistinctFields fields →
    LikeFields .distinct fields fields
  | [], _ => by rw [LikeFields]
  | (key, value) :: rest, distinct => by
    rw [LikeFields]
    exact ⟨value, rest, rfl, likeField_self key value distinct.1, likeFields_self rest distinct.2⟩

theorem likeField_self (key : String) : (value : Json) → value.Distinct →
    LikeField .distinct key value value
  | .arr items, distinct => by
    rw [LikeField]
    split
    · exact ⟨items, rfl, likeDrops_self items distinct⟩
    · split
      · exact ⟨items, rfl, forall₂_payload_self distinct⟩
      · rfl
  | .null, _ | .bool _, _ | .int _, _ | .double _, _ | .str _, _ | .obj _, _ => by
    simp [LikeField, likeText_self]

theorem likeDrops_self : (items : List Json) → DistinctItems items →
    LikeDrops .distinct items items
  | [], _ => by rw [LikeDrops]
  | item :: rest, distinct => by
    rw [LikeDrops]
    exact ⟨item, rest, rfl, likeDrop_self item distinct.1, likeDrops_self rest distinct.2⟩

end

theorem likeScript_self {value : Json} (distinct : value.Distinct) :
    value.LikeScript .distinct value := by
  cases value with
  | obj fields =>
    refine ⟨fields, rfl, ?_⟩
    rw [List.forall₂_same]
    intro field mem
    have inside : field.2.Distinct := distinctFields_iff.mp distinct.2 field mem
    refine ⟨rfl, ?_⟩
    generalize field.2 = value at inside
    -- Pools, removals and the reference are compared in their own ways, all else must be the same.
    rw [LikeScriptField]
    split
    · cases value with
      | obj pools =>
        refine ⟨pools, rfl, ?_⟩
        rw [List.forall₂_same]
        intro pool mem
        exact ⟨rfl, likeDrop_self pool.2 (distinctFields_iff.mp inside.2 pool mem)⟩
      | _ => rfl
    · split
      · cases value with
        | arr items =>
          refine ⟨items, rfl, ?_⟩
          rw [List.forall₂_same]
          exact fun item _ => likeText_self item
        | _ => rfl
      · split
        · exact likeText_self value
        · rfl
  | _ => rfl

/-! ## What is written -/

theorem distinctFields_append {fields others : List (String × Json)}
    (distinct : DistinctFields fields) (distinct' : DistinctFields others) :
    DistinctFields (fields ++ others) := by
  rw [distinctFields_iff] at distinct distinct' ⊢
  exact List.forall_mem_append.mpr ⟨distinct, distinct'⟩

theorem distinctFields_fieldIf {key : String} {value : Option Json}
    (distinct : ∀ written, value = some written → written.Distinct) :
    DistinctFields (fieldIf key value) := by
  cases value with
  | none => trivial
  | some value => exact ⟨distinct value rfl, trivial⟩

/-- A list of values without double keys, if it is written at all. -/
theorem distinctFields_unlessEmpty {key : String} {items : List Json}
    (distinct : DistinctItems items) :
    DistinctFields (fieldIf key ((unlessEmpty items).map .arr)) := by
  apply distinctFields_fieldIf
  intro written same
  cases items with
  | nil => cases same
  | cons item rest =>
    cases same
    exact distinct

theorem distinctItems_of_payloads {items others : List Json}
    (alike : List.Forall₂ Likeness.distinct.payload items others) : DistinctItems items := by
  induction alike with
  | nil => trivial
  | cons first _ ih => exact ⟨first.2, ih⟩

end Json

namespace Drop

theorem nodup_keys_fields (kind : DropKind) (name : Option String) (children : Option (List Json))
    (functions conditions : List Json) :
    ((fields kind name children functions conditions).map Prod.fst).Nodup := by
  have listed : ((fields kind name children functions conditions).map Prod.fst).Sublist
      ["type", "unsafe", "name", "children", "functions", "conditions"] := by
    simp only [fields, List.map_append]
    exact ((((((keys_fieldIf ..).append (keys_fieldIf ..)).append (keys_fieldIf ..)).append
      (keys_fieldIf ..)).append (keys_fieldIf ..)).append (keys_fieldIf ..))
  exact listed.nodup (by decide)

mutual

theorem distinct_toJson : (drop : Drop) → {other : Drop} → drop.Like .distinct other →
    drop.toJson.Distinct
  | ⟨kind, name, children, functions, conditions⟩, other, alike => by
    rw [Like] at alike
    obtain ⟨-, -, held, calls, bounds⟩ := alike
    rw [toJson_eq]
    -- The children are drops again; the other containers hold payloads.
    refine ⟨nodup_keys_fields .., ?_⟩
    refine Json.distinctFields_append (Json.distinctFields_append (Json.distinctFields_append
      (Json.distinctFields_append (Json.distinctFields_append ?typed ?flagged) ?named) ?held)
      (Json.distinctFields_unlessEmpty (Json.distinctItems_of_payloads calls)))
      (Json.distinctFields_unlessEmpty (Json.distinctItems_of_payloads bounds))
    case typed => exact ⟨trivial, trivial⟩
    case flagged => split <;> trivial
    case named => cases name <;> trivial
    case held =>
      cases children with
      | none => trivial
      | some drops =>
        rw [LikeChildren] at held
        obtain ⟨drops', -, same⟩ := held
        exact ⟨distinct_toJsons drops same, trivial⟩

theorem distinct_toJsons : (drops : List Drop) → {others : List Drop} →
    LikeAll .distinct drops others → Json.DistinctItems (toJsons drops)
  | [], _, _ => by
    rw [toJsons]
    trivial
  | drop :: rest, _, alike => by
    rw [LikeAll] at alike
    obtain ⟨drop', rest', rfl, first, later⟩ := alike
    rw [toJsons]
    exact ⟨distinct_toJson drop first, distinct_toJsons rest later⟩

end

end Drop

namespace Script

variable {files : FileTree} {path : Path} {content : ByteArray} {script other : Script}

theorem nodup_keys_fields (script : Script) : (script.fields.map Prod.fst).Nodup := by
  -- Every field is left out or stands once, in this order.
  have listed : (script.fields.map Prod.fst).Sublist ["type", "extend", "pools", "remove"] := by
    simp only [fields, List.map_append]
    exact (((keys_fieldIf ..).append (keys_fieldIf ..)).append (keys_fieldIf ..)).append
      (keys_fieldIf ..)
  exact listed.nodup (by decide)

theorem distinct_toJson (formed : script.WellFormed) (alike : script.Like .distinct other) :
    script.toJson.Distinct := by
  rw [toJson_eq]
  refine ⟨script.nodup_keys_fields, ?_⟩
  refine Json.distinctFields_append (Json.distinctFields_append (Json.distinctFields_append
    ?type ?extend) ?pools) (Json.distinctFields_unlessEmpty ?remove)
  case type => cases script.kind <;> trivial
  case extend => cases script.base <;> trivial
  case pools =>
    -- The keys of the pools are identifiers, and different ones are written differently.
    have texts := formed.nodup_texts
    rw [OrderedMap.keys, List.map_map] at texts
    have drops : ∀ pool ∈ script.pools.entries, pool.2.toJson.Distinct := by
      have each := alike.pools.imp fun pool _ same =>
        And.intro (Drop.distinct_toJson pool.2 same.2) same
      exact ((List.forall₂_and_left _ _).mp each).1
    refine ⟨⟨by rwa [List.map_map], ?_⟩, trivial⟩
    rw [Json.distinctFields_iff]
    intro field mem
    obtain ⟨pool, listed, rfl⟩ := List.mem_map.mp mem
    exact drops pool listed
  case remove =>
    rw [Json.distinctItems_iff]
    intro item mem
    obtain ⟨id, -, rfl⟩ := List.mem_map.mp mem
    trivial

/-! ## Scripts that are read -/

/-- A script in what a text says: no value that is read from a text has double keys. -/
def IsRead (script : Script) : Prop := ∃ value : Json, value.Distinct ∧ ofJson value = .ok script

theorem isRead_of_ofContent (judged : ofContent path content = .ok script) : script.IsRead := by
  unfold ofContent at judged
  split at judged
  · cases judged
  · next value decoded =>
    split at judged
    · cases judged
    · next shape formed =>
      refine ⟨value, Json.distinct_of_decode? decoded, ?_⟩
      cases read : ofShape shape with
      | error failure =>
        rw [read] at judged
        cases judged
      | ok same =>
        rw [read] at judged
        cases judged
        rw [ofJson, formed]
        exact read

theorem isRead_of_interpretFile (read : (interpretFile files path).result = .ok script) :
    script.IsRead := by
  simp only [interpretFile, Traced.result_bind, Traced.result_ofExcept, bind_eq_ok_iff] at read
  obtain ⟨isThere, -, read⟩ := read
  split at read
  · cases read
  · simp only [Traced.result_bind, Traced.result_ofExcept, bind_eq_ok_iff] at read
    obtain ⟨isDirectory, -, read⟩ := read
    split at read
    · cases read
    · simp only [Traced.result_bind, Traced.result_report, Traced.result_mapFailure] at read
      cases loaded : (loadFile files path).result with
      | error failure =>
        rw [loaded] at read
        cases read
      | ok same =>
        rw [loaded] at read
        cases read
        simp only [loadFile, Traced.result_bind, Traced.result_ofExcept, bind_eq_ok_iff] at loaded
        obtain ⟨content, -, _, judged, _, -, same⟩ := loaded
        cases same
        exact isRead_of_ofContent judged

theorem isRead_of_interpretFiles {paths : List Path} {scripts : List Script}
    (read : (interpretFiles files paths).result = .ok scripts) :
    ∀ script ∈ scripts, script.IsRead := by
  induction paths generalizing scripts with
  | nil =>
    cases read
    exact List.forall_mem_nil _
  | cons path rest ih =>
    simp only [interpretFiles, Traced.result_bind, bind_eq_ok_iff] at read
    obtain ⟨script, first, others, later, same⟩ := read
    cases same
    exact List.forall_mem_cons.mpr ⟨isRead_of_interpretFile first, ih later⟩

theorem isRead_of_interpretDirectory {scripts : List Script}
    (read : (interpretDirectory files path).result = .ok scripts) :
    ∀ script ∈ scripts, script.IsRead := by
  simp only [interpretDirectory, Traced.result_bind, Traced.result_ofExcept, bind_eq_ok_iff] at read
  obtain ⟨isThere, -, read⟩ := read
  split at read
  · cases read
  · simp only [Traced.result_bind, Traced.result_ofExcept, bind_eq_ok_iff] at read
    obtain ⟨names, -, _, -, read⟩ := read
    exact isRead_of_interpretFiles read

theorem IsRead.wellFormed (isRead : script.IsRead) : script.WellFormed := by
  obtain ⟨value, -, read⟩ := isRead
  exact wellFormed_of_ofJson read

theorem IsRead.like_self (isRead : script.IsRead) : script.Like .distinct script := by
  obtain ⟨value, distinct, read⟩ := isRead
  have alike := ofJson_alike (Json.likeScript_self distinct)
  rw [read] at alike
  cases alike with
  | ok same => exact same

end Script

/-! ## What comes of it -/

theorem Store.source_like_self {files : FileTree} {store : Store}
    (registered : ∀ definition ∈ store.registered, definition.Distinct) :
    (store.source files).Like .distinct (store.source files) := by
  intro id
  cases looked : (store.source files).lookup id with
  | error failure => exact .error rfl
  | ok found =>
    refine .ok ?_
    cases found with
    | none => exact .none
    | some definition =>
      refine .some (Json.likeScript_self ?_)
      -- It is registered, or it was read from a file.
      obtain listed | decoded := mem_of_lookup store looked
      · exact registered definition listed
      · obtain ⟨content, -, decoded⟩ := List.mem_filterMap.mp decoded
        exact Json.distinct_of_decode? decoded

/-- What was read combines to what is written without double keys. -/
theorem Script.distinct_of_combine {files : FileTree} {store : Store} {scripts : List Script}
    {result : Script} (registered : ∀ definition ∈ store.registered, definition.Distinct)
    (read : ∀ script ∈ scripts, script.IsRead)
    (combined : combine scripts (store.source files) = .ok result) : result.toJson.Distinct := by
  have formed : result.WellFormed :=
    wellFormed_of_combine (fun script mem => (read script mem).wellFormed) combined
  have themselves : List.Forall₂ (Like .distinct) scripts scripts := by
    rw [List.forall₂_same]
    exact fun script mem => (read script mem).like_self
  have sources : (store.source files).Like .distinct (store.source files) :=
    Store.source_like_self registered
  have alike := combine_alike sources themselves
  rw [combined] at alike
  cases alike with
  | ok same => exact distinct_toJson formed same

/-- The built-in base scripts are written without double keys. -/
theorem Builtin.distinct_registry :
    ∀ definition ∈ registry.entries.map Prod.snd, definition.Distinct := by
  decide +kernel

end LootScript
