import LootScript.Proofs.Identifier
import LootScript.Proofs.Script.Inheritance
import LootScript.Proofs.Script.Payload

/-!
# Two ways to write an identifier

An identifier in the default scope can be written with its scope or without. It makes no difference
which of the two is written, wherever identifiers are written: as names of pools, in removals, in
references to base scripts, as types of drops at any depth, and as keys of registries. What is read
is the same but for the text of the reference, what is compiled or combined is the same altogether,
and failures differ at most in the texts that they show.
-/
namespace LootScript

/-- The same text, or two texts for the same identifier. -/
def Identifier.Synonyms (one other : String) : Prop :=
  one = other ∨ ∃ id, parse one = .ok id ∧ parse other = .ok id

theorem Identifier.synonyms_text {text : String} {id : Identifier} (read : parse text = .ok id) :
    Synonyms text id.text :=
  .inr ⟨id, read, parse_text (wellFormed_of_parse read)⟩

namespace Failure

/-- What is left of a failure and its causes without the texts that they show of a script. -/
def withoutTexts : Failure → Failure
  | .script fault _ => .script fault .null
  | .scriptBy fault _ cause => .scriptBy fault .null cause.withoutTexts
  | .shape _ problem => .shape "" problem
  | .read fault path cause => .read fault path cause.withoutTexts
  | .unreadableScript path cause => .unreadableScript path cause.withoutTexts
  | .combination index cause => .combination index cause.withoutTexts
  | .packAccess named cause => .packAccess named cause.withoutTexts
  | .packForm named cause => .packForm named cause.withoutTexts
  | failure => failure

/-- Two failures of the same kind, from causes of the same kinds. -/
def SameKinds (one other : Failure) : Prop := one.withoutTexts = other.withoutTexts

theorem isScriptFault_withoutTexts (failure : Failure) :
    failure.withoutTexts.isScriptFault = failure.isScriptFault := by
  cases failure <;> rfl

end Failure

/-- Identifiers may be written in another way; payloads are the same. -/
def Likeness.respelled : Likeness where
  text := Identifier.Synonyms
  payload value other := other = value
  failure := Failure.SameKinds
  text_refl _ := .inl rfl
  parse := by
    rintro one other (rfl | ⟨id, read, read'⟩)
    · cases Identifier.parse one with
      | ok id => exact .ok rfl
      | error failure => exact .error rfl
    · rw [read, read']
      exact .ok rfl
  script _ _ := rfl
  scriptBy fault _ causes := congrArg (Failure.scriptBy fault .null) causes
  shape _ _ := rfl
  pool _ _ _ := rfl
  combination index causes := congrArg (Failure.combination index) causes
  isScriptFault := by
    intro one other same
    rw [← Failure.isScriptFault_withoutTexts one, ← Failure.isScriptFault_withoutTexts other, same]

/-! ## The same meaning -/

namespace Script

/-- Scripts that are the same but for the texts of their references. -/
structure SameMeaning (one other : Script) : Prop where
  kind : other.kind = one.kind
  base : other.base.map Reference.identifier = one.base.map Reference.identifier
  pools : other.pools = one.pools
  removals : other.removals = one.removals

variable {script other : Script}

theorem related_pools_iff {pools others : OrderedMap Identifier Drop} :
    OrderedMap.Related (Drop.Like .respelled) pools others ↔ others = pools := by
  have same : Drop.Like .respelled = fun drop drop' => drop' = id drop :=
    funext fun _ => funext fun _ => propext (Drop.like_iff_eq fun _ _ => Iff.rfl)
  have unchanged : pools.mapValues id = pools := OrderedMap.ext_entries (List.map_id _)
  rw [same, OrderedMap.related_iff_mapValues, unchanged]

/-- References mean the same base script if their texts are synonyms. -/
theorem synonyms_raw_iff {reference reference' : Reference} :
    Identifier.Synonyms reference.raw reference'.raw ↔
      reference'.identifier = reference.identifier := by
  constructor
  · intro texts
    have alike : Likeness.respelled.text reference.raw reference'.raw := texts
    exact Reference.identifier_eq alike
  · intro same
    exact .inr ⟨reference.identifier, reference.parsed, same ▸ reference'.parsed⟩

theorem like_respelled_iff : script.Like .respelled other ↔ script.SameMeaning other := by
  have bases (base base' : Option Reference) :
      Option.Rel (fun reference reference' =>
        Identifier.Synonyms reference.raw reference'.raw) base base' ↔
        base'.map Reference.identifier = base.map Reference.identifier := by
    constructor
    · rintro (texts | _)
      · exact congrArg some (synonyms_raw_iff.mp texts)
      · rfl
    · intro same
      cases base <;> cases base' <;> simp only [Option.map_some, Option.map_none, reduceCtorEq,
        Option.some.injEq] at same
      · exact .none
      · exact .some (synonyms_raw_iff.mpr same)
  constructor
  · rintro ⟨kind, base, pools, removals⟩
    exact ⟨kind, (bases _ _).mp base, related_pools_iff.mp pools, removals⟩
  · rintro ⟨kind, base, pools, removals⟩
    exact ⟨kind, (bases _ _).mpr base, related_pools_iff.mpr pools, removals⟩

theorem SameMeaning.eq_of_base_eq_none (same : script.SameMeaning other)
    (plain : script.base = none) : other = script := by
  obtain ⟨kind, base, pools, removals⟩ := same
  rw [plain, Option.map_none, Option.map_eq_none_iff] at base
  obtain ⟨kind', base', pools', removals'⟩ := script
  obtain ⟨kind'', base'', pools'', removals''⟩ := other
  simp_all

/-! ## Reading, compiling and combining -/

theorem base_of_combine {source : Source} {scripts : List Script} {result : Script}
    (combined : combine scripts source = .ok result) : result.base = none := by
  obtain ⟨compiled, _, rfl⟩ := combine_eq_ok_iff.mp combined
  exact base_overlayAll compiled

/-- Results without a reference that mean the same are the same. -/
theorem eq_of_alike {one other : Except Failure Script}
    (alike : Alike Failure.SameKinds (Like .respelled) one other)
    (plain : ∀ result, one = .ok result → result.base = none) :
    Alike Failure.SameKinds Eq one other := by
  cases alike with
  | ok same =>
    exact .ok ((like_respelled_iff.mp same).eq_of_base_eq_none (plain _ rfl)).symm
  | error same => exact .error same

/--
Every text that is read as an identifier may be replaced by the one that the identifier is written
as, and by any other text for it. Scripts that are written with synonyms are read as scripts of the
same meaning, and registries with such keys and definitions as registries of the same entries; over
these, scripts of the same meaning compile and combine to the same scripts. Where any of this fails,
both fail in the same way, but for the texts.
-/
theorem respelling_transparent {value value' : Json} {entries entries' : List (String × Json)}
    {definitions definitions' : Registry} {scripts scripts' : List Script}
    (written : value.LikeScript .respelled value')
    (entered : List.Forall₂ (fun entry entry' => Identifier.Synonyms entry.1 entry'.1 ∧
      entry.2.LikeScript .respelled entry'.2) entries entries')
    (registered : definitions.Like .respelled definitions')
    (meant : List.Forall₂ SameMeaning scripts scripts') (files : FileTree) :
    let source := (Store.registry definitions).source files
    let source' := (Store.registry definitions').source files
    (∀ text id, Identifier.parse text = .ok id → Identifier.Synonyms text id.text) ∧
    Alike Failure.SameKinds SameMeaning (ofJson value) (ofJson value') ∧
    Alike Failure.SameKinds (Registry.Like .respelled) (Registry.ofEntries entries)
      (Registry.ofEntries entries') ∧
    List.Forall₂ (fun script script' =>
      Alike Failure.SameKinds Eq (script.compile source) (script'.compile source'))
      scripts scripts' ∧
    Alike Failure.SameKinds Eq (combine scripts source) (combine scripts' source') := by
  intro source source'
  have sources : source.Like .respelled source' := Store.source_alike registered files files
  have each : List.Forall₂ (Like .respelled) scripts scripts' :=
    meant.imp fun _ _ same => like_respelled_iff.mpr same
  refine ⟨fun _ _ => Identifier.synonyms_text, ?read, ?register, ?compile, ?combine⟩
  case read => exact (ofJson_alike written).mono fun _ _ => like_respelled_iff.mp
  case register =>
    have alike : Alike Likeness.respelled.failure (Registry.Like .respelled)
        (Registry.ofEntries entries) (Registry.ofEntries entries') :=
      Registry.ofEntries_alike entered
    exact alike
  case compile =>
    exact each.imp fun script script' same =>
      eq_of_alike (compile_alike sources same) fun _ compiled => base_of_compile compiled
  case combine =>
    exact eq_of_alike (combine_alike sources each) fun _ combined => base_of_combine combined

/-- A script and its base, both written without the scope and with it. -/
theorem combine_respelled_base :
    let written (a item : String) : Json := .obj [("extend", .str a), ("pools", .obj [
      ("b", .obj [("type", .str "group"), ("unsafe", .bool true),
        ("children", .arr [.obj [("type", .str item), ("functions", .arr [.null])]])])]),
      ("remove", .arr [.str a])]
    let base (a item : String) : Json := .obj [("pools", .obj [(a, .obj [("type", .str item)])])]
    let script : Script := {
      kind := none
      base := some ⟨"a", ⟨"minecraft", "a"⟩, rfl⟩
      pools := .ofList [(⟨"minecraft", "b"⟩,
        ⟨.group, none, some [⟨.item, none, none, [.null], []⟩], [], []⟩)]
      removals := [⟨"minecraft", "a"⟩] }
    let script' := { script with base := some ⟨"minecraft:a", ⟨"minecraft", "a"⟩, rfl⟩ }
    let definitions : Registry := .ofList [(⟨"minecraft", "a"⟩, base "a" "item")]
    let definitions' : Registry :=
      .ofList [(⟨"minecraft", "a"⟩, base "minecraft:a" "minecraft:item")]
    ofJson (written "a" "item") = .ok script ∧
    ofJson (written "minecraft:a" "minecraft:item") = .ok script' ∧
    Registry.ofEntries [("a", base "a" "item")] = .ok definitions ∧
    Registry.ofEntries [("minecraft:a", base "minecraft:a" "minecraft:item")] =
      .ok definitions' ∧
    ∀ files, Alike Failure.SameKinds Eq
      (combine [script] ((Store.registry definitions).source files))
      (combine [script'] ((Store.registry definitions').source files)) := by
  intro written base script script' definitions definitions'
  have name : Identifier.Synonyms "a" "minecraft:a" := .inr ⟨⟨"minecraft", "a"⟩, rfl, rfl⟩
  have type : Identifier.Synonyms "item" "minecraft:item" :=
    .inr ⟨⟨"minecraft", "item"⟩, rfl, rfl⟩
  have scripts : (written "a" "item").LikeScript .respelled
      (written "minecraft:a" "minecraft:item") := by
    refine ⟨_, rfl, .cons ⟨rfl, _, rfl, name⟩ (.cons ⟨rfl, _, rfl, .cons ⟨.inl rfl, ?_⟩ .nil⟩
      (.cons ⟨rfl, _, rfl, .cons ⟨_, rfl, name⟩ .nil⟩ .nil))⟩
    have group : Identifier.Synonyms "group" "group" := .inl rfl
    simp [Json.LikeDrop, Json.LikeFields, Json.LikeField, Json.LikeDrops, Json.LikeText,
      Json.LikeList, Likeness.respelled, type, group]
  have bases : (base "a" "item").LikeScript .respelled (base "minecraft:a" "minecraft:item") := by
    refine ⟨_, rfl, .cons ⟨rfl, _, rfl, .cons ⟨name, ?_⟩ .nil⟩ .nil⟩
    simp [Json.LikeDrop, Json.LikeFields, Json.LikeField, Json.LikeText, Likeness.respelled, type]
  have entered : List.Forall₂ (fun entry entry' : String × Json =>
      Identifier.Synonyms entry.1 entry'.1 ∧ entry.2.LikeScript .respelled entry'.2)
      [("a", base "a" "item")] [("minecraft:a", base "minecraft:a" "minecraft:item")] :=
    .cons ⟨name, bases⟩ .nil
  have registered : definitions.Like .respelled definitions' := .cons ⟨rfl, bases⟩ .nil
  have meant : script.SameMeaning script' := ⟨rfl, rfl, rfl, rfl⟩
  refine ⟨by decide +kernel, by decide +kernel, by decide +kernel, by decide +kernel, ?_⟩
  intro files
  have transparent := respelling_transparent scripts entered registered (.cons meant .nil) files
  exact transparent.2.2.2.2

end Script

end LootScript
