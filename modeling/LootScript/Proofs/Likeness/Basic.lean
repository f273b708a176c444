import LootScript.Drop.Shape
import LootScript.Identifier
import Mathlib.Data.List.Forall2
import Mathlib.Data.Option.Basic

/-!
# Likenesses

On like inputs two runs go the same way and come to like outcomes. A likeness says how far the
inputs may differ: in the texts of identifiers, and in payloads, which are the functions and the
conditions of drops. It also says how far the failures may differ that come of it. Its laws are what
has to be known for each choice of the three; that all the rest follows is shown once, for every
likeness.
-/
namespace LootScript

/-- Both outcomes are results that correspond, or both are failures that correspond. -/
inductive Alike {α β : Type} (failure : Failure → Failure → Prop) (result : α → β → Prop) :
    Except Failure α → Except Failure β → Prop
  | ok {a : α} {b : β} : result a b → Alike failure result (.ok a) (.ok b)
  | error {f g : Failure} : failure f g → Alike failure result (.error f) (.error g)

namespace Alike

variable {α β γ δ : Type} {failure : Failure → Failure → Prop} {result : α → β → Prop}
  {result' : γ → δ → Prop} {one : Except Failure α} {other : Except Failure β}

/-- Two ways in which outcomes are alike, for a proof that follows both runs. -/
theorem cases_of (alike : Alike failure result one other) :
    (∃ a b, one = .ok a ∧ other = .ok b ∧ result a b) ∨
      ∃ f g, one = .error f ∧ other = .error g ∧ failure f g := by
  cases alike with
  | ok same => exact .inl ⟨_, _, rfl, rfl, same⟩
  | error same => exact .inr ⟨_, _, rfl, rfl, same⟩

theorem bind {next : α → Except Failure γ} {next' : β → Except Failure δ}
    (alike : Alike failure result one other)
    (after : ∀ a b, result a b → Alike failure result' (next a) (next' b)) :
    Alike failure result' (one >>= next) (other >>= next') := by
  cases alike with
  | ok same => exact after _ _ same
  | error same => exact .error same

theorem map {change : α → γ} {change' : β → δ} (alike : Alike failure result one other)
    (kept : ∀ a b, result a b → result' (change a) (change' b)) :
    Alike failure result' (one.map change) (other.map change') := by
  cases alike with
  | ok same => exact .ok (kept _ _ same)
  | error same => exact .error same

theorem mono {weaker : α → β → Prop} (alike : Alike failure result one other)
    (implied : ∀ a b, result a b → weaker a b) : Alike failure weaker one other := by
  cases alike with
  | ok same => exact .ok (implied _ _ same)
  | error same => exact .error same

/-- Where failures are the same and results determine one another, so do outcomes. -/
theorem eq_map {change : α → β} (alike : Alike Eq (fun a b => b = change a) one other) :
    other = one.map change := by
  cases alike with
  | ok same => exact congrArg _ same
  | error same => exact congrArg _ same.symm

end Alike

structure Likeness where
  text : String → String → Prop
  payload : Json → Json → Prop
  failure : Failure → Failure → Prop
  text_refl : ∀ written, text written written
  /-- Like texts are read as the same identifier, if they are read at all. -/
  parse : ∀ {one other : String}, text one other →
    Alike failure Eq (Identifier.parse one) (Identifier.parse other)
  script : ∀ {one other : String} (fault : ScriptFault), text one other →
    failure (.script fault (.str one)) (.script fault (.str other))
  scriptBy : ∀ {one other : String} {cause cause' : Failure} (fault : ScriptFault),
    text one other → failure cause cause' →
      failure (.scriptBy fault (.str one) cause) (.scriptBy fault (.str other) cause')
  shape : ∀ location problem : String, failure (.shape location problem) (.shape location problem)
  /-- Locations inside of pools name the pools as they are written. -/
  pool : ∀ {one other : String} (rest problem : String), text one other →
    failure (.shape ("pools." ++ one ++ rest) problem) (.shape ("pools." ++ other ++ rest) problem)
  combination : ∀ {cause cause' : Failure} (index : Nat), failure cause cause' →
    failure (.combination index cause) (.combination index cause')
  isScriptFault : ∀ {one other : Failure}, failure one other →
    one.isScriptFault = other.isScriptFault

namespace Likeness

variable (like : Likeness)

/-- Whatever is wrong below either place is a like failure. -/
def Places (one other : String) : Prop :=
  ∀ rest problem, like.failure (.shape (one ++ rest) problem) (.shape (other ++ rest) problem)

variable {like} {one other : String}

theorem places_refl (location : String) : like.Places location location :=
  fun rest problem => like.shape (location ++ rest) problem

theorem places_pool (texts : like.text one other) :
    like.Places ("pools." ++ one) ("pools." ++ other) :=
  fun rest problem => like.pool rest problem texts

theorem Places.append (places : like.Places one other) (part : String) :
    like.Places (one ++ part) (other ++ part) := by
  intro rest problem
  rw [String.append_assoc, String.append_assoc]
  exact places (part ++ rest) problem

theorem Places.failure (places : like.Places one other) (problem : String) :
    like.failure (.shape one problem) (.shape other problem) := by
  have here := places "" problem
  rwa [String.append_empty, String.append_empty] at here

/-- The law of places, where like failures are the same. -/
theorem shape_eq (location problem : String) :
    Failure.shape location problem = .shape location problem :=
  rfl

/-- Payloads may differ as one likes; everything else is the same. -/
def ofPayloads (payload : Json → Json → Prop) : Likeness where
  text := Eq
  payload := payload
  failure := Eq
  text_refl _ := rfl
  parse := by
    rintro text _ rfl
    cases Identifier.parse text with
    | ok id => exact .ok rfl
    | error failure => exact .error rfl
  script := by rintro text _ fault rfl; rfl
  scriptBy := by rintro text _ cause _ fault rfl rfl; rfl
  shape := shape_eq
  pool := by rintro text _ rest problem rfl; rfl
  combination := by rintro cause _ index rfl; rfl
  isScriptFault := by rintro failure _ rfl; rfl

end Likeness

/-! ## Reading fields -/

namespace Json

/-- Like texts, or the same value. -/
def LikeText (like : Likeness) : Json → Json → Prop
  | .str text, other => ∃ text', other = .str text' ∧ like.text text text'
  | value, other => other = value

/-- Lists whose items correspond one by one, or the same value. -/
def LikeList (same : Json → Json → Prop) : Json → Json → Prop
  | .arr items, other => ∃ items', other = .arr items' ∧ List.Forall₂ same items items'
  | value, other => other = value

/-- Objects whose fields correspond one by one, or the same value. -/
def LikeObject (same : String × Json → String × Json → Prop) : Json → Json → Prop
  | .obj fields, other => ∃ fields', other = .obj fields' ∧ List.Forall₂ same fields fields'
  | value, other => other = value

end Json

namespace FieldType

variable {α : Type} {like : Likeness} {type : FieldType α} {location location' key : String}
  {fields fields' : List (String × Json)}

/-- Values that correspond are read as what corresponds, or are the same and of another type. -/
def ReadsAlike (type : FieldType α) (alike : Json → Json → Prop) (same : α → α → Prop) : Prop :=
  ∀ value other, alike value other → other = value ∧ type.read? value = none ∨
    ∃ a b, type.read? value = some a ∧ type.read? other = some b ∧ same a b

theorem text_readsAlike : text.ReadsAlike (Json.LikeText like) like.text := by
  intro value other alike
  cases value with
  | str one =>
    obtain ⟨text', rfl, texts⟩ := alike
    exact .inr ⟨one, text', rfl, rfl, texts⟩
  | _ => exact .inl ⟨alike, rfl⟩

theorem list_readsAlike {same : Json → Json → Prop} :
    list.ReadsAlike (Json.LikeList same) (List.Forall₂ same) := by
  intro value other alike
  cases value with
  | arr items =>
    obtain ⟨items', rfl, both⟩ := alike
    exact .inr ⟨items, items', rfl, rfl, both⟩
  | _ => exact .inl ⟨alike, rfl⟩

theorem object_readsAlike {same : String × Json → String × Json → Prop} :
    object.ReadsAlike (Json.LikeObject same) (List.Forall₂ same) := by
  intro value other alike
  cases value with
  | obj fields =>
    obtain ⟨fields', rfl, both⟩ := alike
    exact .inr ⟨fields, fields', rfl, rfl, both⟩
  | _ => exact .inl ⟨alike, rfl⟩

theorem refuse_alike {β γ : Type} {result : β → γ → Prop} (type : FieldType α)
    (places : like.Places location location') :
    Alike like.failure result (type.refuse location key) (type.refuse location' key) :=
  .error (((places.append ".").append key).failure _)

theorem optional_of_read {value : Json} {a : α} (found : fields.lookup key = some value)
    (null : type.read? .null = none) (read : type.read? value = some a) :
    type.optional location key fields = .ok (some a) := by
  unfold optional
  rw [found]
  split
  · next absent => cases absent
  · next absent =>
    cases absent
    rw [null] at read
    cases read
  · next other same =>
    cases same
    rw [read]

/-- The same field is read in the same way. -/
theorem optional_alike_of_eq (type : FieldType α) (places : like.Places location location')
    (same : fields'.lookup key = fields.lookup key) :
    Alike like.failure Eq (type.optional location key fields)
      (type.optional location' key fields') := by
  unfold optional
  rw [same]
  split
  · exact .ok rfl
  · exact .ok rfl
  · split
    · exact .ok rfl
    · exact refuse_alike type places

theorem optional_alike {alike : Json → Json → Prop} {same : α → α → Prop}
    (places : like.Places location location') (reads : type.ReadsAlike alike same)
    (null : type.read? .null = none)
    (found : Option.Rel alike (fields.lookup key) (fields'.lookup key)) :
    Alike like.failure (Option.Rel same) (type.optional location key fields)
      (type.optional location' key fields') := by
  have kept (equal : fields'.lookup key = fields.lookup key)
      (unread : ∀ value, fields.lookup key = some value → type.read? value = none) :
      Alike like.failure (Option.Rel same) (type.optional location key fields)
        (type.optional location' key fields') := by
    unfold optional
    rw [equal]
    split
    · exact .ok .none
    · exact .ok .none
    · next value _ here =>
      rw [unread value here]
      exact refuse_alike type places
  generalize one : fields.lookup key = value, other : fields'.lookup key = value' at found
  cases found with
  | none => exact kept (other.trans one.symm) (by simp [one])
  | @some value value' corresponding =>
    rcases reads value value' corresponding with ⟨rfl, unread⟩ | ⟨a, b, read, read', both⟩
    · exact kept (other.trans one.symm) (by simp [one, unread])
    · rw [optional_of_read one null read, optional_of_read other null read']
      exact .ok (.some both)

end FieldType

/-- Lists that may be left out, and then count as empty. -/
theorem forall₂_getD {α β : Type} {same : α → β → Prop} {one : Option (List α)}
    {other : Option (List β)} (both : Option.Rel (List.Forall₂ same) one other) :
    List.Forall₂ same (one.getD []) (other.getD []) := by
  cases both with
  | none => exact .nil
  | some lists => exact lists

end LootScript
