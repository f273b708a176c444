import LootScript.Pack
import LootScript.Proofs.Field
import LootScript.Proofs.FileTree
import Mathlib.Logic.Relation

/-!
# Usable packs

The check of a pack accepts a path exactly if there is a file at it whose text is an object with a
list of options, all of which have a name. Otherwise it reports what is wrong: nothing is there, or
a directory, the text is not JSON, there are no options, the options are not a list, or an option
has no name, where the first such option is reported. Beside these there is only the refusal of the
system to look at the path, which comes through as it is. No field of an object in the file counts
but the list of options and the names in it.
-/
namespace LootScript

namespace Json

/-- A step from a value to one that it holds. -/
inductive Descent
  | field (key : String)
  | item
  deriving DecidableEq

/-- A field of the key is added to an object; the address leads to it from the whole value. -/
inductive FieldAdded (key : String) : List Descent → Json → Json → Prop
  | here (before after : List (String × Json)) (value : Json) :
    FieldAdded key [] (.obj (before ++ after)) (.obj (before ++ (key, value) :: after))
  | field {address : List Descent} {value value' : Json} (before after : List (String × Json))
    (name : String) (inside : FieldAdded key address value value') :
    FieldAdded key (.field name :: address) (.obj (before ++ (name, value) :: after))
      (.obj (before ++ (name, value') :: after))
  | item {address : List Descent} {item item' : Json} (items others : List Json)
    (inside : FieldAdded key address item item') :
    FieldAdded key (.item :: address) (.arr (items ++ item :: others))
      (.arr (items ++ item' :: others))

end Json

namespace Pack

open Json (FieldAdded field?_append_cons_of_ne present?_append_cons_of_ne)

variable {files : FileTree} {path : Path} {content : ByteArray}
  {description option option' : Json} {options : List Json} {failure : Failure} {key : String}
  {address : List Json.Descent}

/-! ## Packs that can be used, and others -/

/-- There is a file at the path, and its text is that of the description. -/
def Describes (files : FileTree) (path : Path) (description : Json) : Prop :=
  ∃ place content, files.locate path = .found place (.file content) ∧
    Json.decode? content = some description

/-- An object whose name is a text. -/
def IsNamed (option : Json) : Prop :=
  ∃ fields name, option = .obj fields ∧ fields.lookup "name" = some (.str name)

inductive Usable : Json → Prop
  | listed {fields : List (String × Json)} {options : List Json} :
    fields.lookup "compiler_options" = some (.arr options) →
    (∀ option ∈ options, IsNamed option) → Usable (.obj fields)

/-- The option at an index has no name. -/
def nameless (index : Nat) : Failure :=
  .shape ("compiler_options[" ++ toString index ++ "]") "expected an object with a string name"

/-- What is wrong with a description, for the path as it was named. -/
inductive Unusable (named : String) : Json → Failure → Prop
  | noObject {description : Json} : (∀ fields, description ≠ .obj fields) →
    Unusable named description (.packWithoutOptions named)
  | without {fields : List (String × Json)} :
    fields.lookup "compiler_options" = none ∨ fields.lookup "compiler_options" = some .null →
    Unusable named (.obj fields) (.packWithoutOptions named)
  | unlisted {fields : List (String × Json)} {value : Json} :
    fields.lookup "compiler_options" = some value → value ≠ .null →
    (∀ options, value ≠ .arr options) →
    Unusable named (.obj fields) (.packForm named (.shape "compiler_options" "expected a list"))
  /-- The first option without a name counts. -/
  | nameless {fields : List (String × Json)} {before after : List Json} {option : Json} :
    fields.lookup "compiler_options" = some (.arr (before ++ option :: after)) →
    (∀ earlier ∈ before, IsNamed earlier) → ¬IsNamed option →
    Unusable named (.obj fields) (.packForm named (nameless before.length))

/-- What is wrong with what a path leads to. -/
inductive Rejected (files : FileTree) (path : Path) : Failure → Prop
  | missing : files.locate path = .absent ∨ files.locate path = .unnameable →
    Rejected files path (.packMissing path.text)
  | directory : (∃ place entries, files.locate path = .found place (.directory entries)) ∨
      files.locate path = .deleted →
    Rejected files path (.packIsDirectory path.text)
  | notJson {place : List String} {content : ByteArray} :
    files.locate path = .found place (.file content) → Json.decode? content = none →
    Rejected files path (.packForm path.text .notJson)
  | unusable {description : Json} {failure : Failure} : Describes files path description →
    Unusable path.text description failure → Rejected files path failure

/-- The fields that the check looks at, with the addresses of the objects that hold them. -/
def decisive : List (List Json.Descent × String) :=
  [([], "compiler_options"), ([.field "compiler_options", .item], "name")]

/-- A field is added that the check does not look at. -/
def AddedElsewhere (description other : Json) : Prop :=
  ∃ address key, (address, key) ∉ decisive ∧ FieldAdded key address description other

/-! ## Options -/

theorem hasName_iff : hasName option = true ↔ IsNamed option := by
  unfold hasName
  constructor
  · intro named
    split at named
    · next name found =>
      cases option with
      | obj fields => exact ⟨fields, name, rfl, found⟩
      | _ => cases found
    · cases named
  · rintro ⟨fields, name, rfl, found⟩
    rw [Json.field?, found]

theorem checkOptions_eq_ok_iff (index : Nat) :
    checkOptions index options = .ok () ↔ ∀ option ∈ options, IsNamed option := by
  induction options generalizing index with
  | nil => simp [checkOptions]
  | cons first rest ih =>
    rw [checkOptions, List.forall_mem_cons, ← hasName_iff]
    split
    · next named => rw [ih, and_iff_right named]
    · next unnamed => simp [unnamed]

/-- The failure is about the first option without a name; `index` options came before. -/
theorem checkOptions_eq_error_iff (index : Nat) :
    checkOptions index options = .error failure ↔
      ∃ before option after, options = before ++ option :: after ∧
        (∀ earlier ∈ before, IsNamed earlier) ∧ ¬IsNamed option ∧
        failure = nameless (index + before.length) := by
  -- On the options, for every index: behind an option with a name the check goes on one further.
  induction options generalizing index with
  | nil => simp [checkOptions]
  | cons first rest ih =>
    rw [checkOptions]
    split
    · next named =>
      rw [hasName_iff] at named
      rw [ih]
      constructor
      · rintro ⟨before, option, after, rfl, earlier, unnamed, rfl⟩
        refine ⟨first :: before, option, after, rfl, ?_, unnamed, ?_⟩
        · exact List.forall_mem_cons.mpr ⟨named, earlier⟩
        · rw [List.length_cons, Nat.add_right_comm, Nat.add_assoc]
      · rintro ⟨before, option, after, split, earlier, unnamed, rfl⟩
        cases before with
        | nil =>
          cases split
          exact absurd named unnamed
        | cons _ before =>
          cases split
          refine ⟨before, option, after, rfl, (List.forall_mem_cons.mp earlier).2, unnamed, ?_⟩
          rw [List.length_cons, Nat.add_right_comm, Nat.add_assoc]
    · next unnamed =>
      rw [hasName_iff] at unnamed
      constructor
      · intro failed
        cases failed
        exact ⟨[], first, rest, rfl, nofun, unnamed, rfl⟩
      · rintro ⟨before, option, after, split, earlier, -, rfl⟩
        cases before with
        | nil => rfl
        | cons _ before =>
          cases split
          exact absurd (List.forall_mem_cons.mp earlier).1 unnamed

/-! ## Descriptions -/

theorem checkDescription_obj (path : Path) (fields : List (String × Json)) :
    checkDescription path (.obj fields) = match fields.lookup "compiler_options" with
      | none | some .null => .error (.packWithoutOptions path.text)
      | some (.arr options) => (checkOptions 0 options).mapError (.packForm path.text)
      | some _ => .error (.packForm path.text (.shape "compiler_options" "expected a list")) := by
  rw [checkDescription, Json.present?_obj]
  cases fields.lookup "compiler_options" with
  | none => rfl
  | some value => cases value <;> rfl

theorem checkDescription_of_not_obj (other : ∀ fields, description ≠ .obj fields) :
    checkDescription path description = .error (.packWithoutOptions path.text) := by
  cases description with
  | obj fields => exact absurd rfl (other fields)
  | _ => rfl

theorem checkDescription_eq_ok_iff :
    checkDescription path description = .ok () ↔ Usable description := by
  constructor
  · intro accepted
    cases description with
    | obj fields =>
      rw [checkDescription_obj] at accepted
      split at accepted
      · cases accepted
      · cases accepted
      · next options found =>
        cases checked : checkOptions 0 options with
        | ok _ => exact .listed found ((checkOptions_eq_ok_iff 0).mp checked)
        | error cause => rw [checked] at accepted; cases accepted
      · cases accepted
    | _ => cases accepted
  · rintro ⟨found, named⟩
    rw [checkDescription_obj, found]
    dsimp only
    rw [(checkOptions_eq_ok_iff 0).mpr named]
    rfl

theorem checkDescription_eq_error_iff :
    checkDescription path description = .error failure ↔
      Unusable path.text description failure := by
  constructor
  · intro refused
    cases description with
    | obj fields =>
      rw [checkDescription_obj] at refused
      split at refused
      · next absent =>
        cases refused
        exact .without (.inl absent)
      · next null =>
        cases refused
        exact .without (.inr null)
      · next options found =>
        cases checked : checkOptions 0 options with
        | ok _ => rw [checked] at refused; cases refused
        | error cause =>
          obtain ⟨before, option, after, rfl, earlier, unnamed, rfl⟩ :=
            (checkOptions_eq_error_iff 0).mp checked
          rw [checked, Nat.zero_add] at refused
          cases refused
          exact .nameless found earlier unnamed
      · next value something other found =>
        cases refused
        exact .unlisted found something other
    | _ =>
      cases refused
      refine .noObject fun fields same => ?_
      cases same
  · intro unusable
    cases unusable with
    | noObject other => exact checkDescription_of_not_obj other
    | without absent =>
      rw [checkDescription_obj]
      rcases absent with absent | null
      · rw [absent]
      · rw [null]
    | @unlisted fields value found something other =>
      rw [checkDescription_obj, found]
      cases value with
      | null => exact absurd rfl something
      | arr options => exact absurd rfl (other options)
      | _ => rfl
    | @nameless fields before after option found earlier unnamed =>
      have checked : checkOptions 0 (before ++ option :: after) =
          .error (nameless (0 + before.length)) :=
        (checkOptions_eq_error_iff 0).mpr ⟨before, option, after, rfl, earlier, unnamed, rfl⟩
      rw [checkDescription_obj, found]
      dsimp only
      rw [checked, Nat.zero_add]
      rfl

/-! ## Whatever is at a path -/

/-- The check by what the path leads to. -/
theorem check_eq_locate (files : FileTree) (path : Path) :
    check files path = match files.locate path with
      | .found _ (.file content) => match Json.decode? content with
        | none => .error (.packForm path.text .notJson)
        | some description => checkDescription path description
      | .found _ (.directory _) | .deleted => .error (.packIsDirectory path.text)
      | .absent | .unnameable => .error (.packMissing path.text)
      | .refused => .error .system := by
  unfold check FileTree.exists? FileTree.isDirectory FileTree.read
  cases files.locate path with
  | found place entry => cases entry <;> rfl
  | _ => rfl

theorem check_of_describes (describes : Describes files path description) :
    check files path = checkDescription path description := by
  obtain ⟨place, content, located, decoded⟩ := describes
  rw [check_eq_locate, located]
  dsimp only
  rw [decoded]

theorem Unusable.isPackFault {named : String} (unusable : Unusable named description failure) :
    failure.isPackFault = true := by
  cases unusable <;> rfl

theorem Rejected.isPackFault (rejected : Rejected files path failure) :
    failure.isPackFault = true := by
  cases rejected with
  | unusable _ unusable => exact unusable.isPackFault
  | _ => rfl

theorem check_eq_ok_iff :
    check files path = .ok () ↔
      ∃ description, Describes files path description ∧ Usable description := by
  constructor
  · intro accepted
    rw [check_eq_locate] at accepted
    split at accepted
    · next place content located =>
      split at accepted
      · cases accepted
      · next description decoded =>
        exact ⟨description, ⟨place, content, located, decoded⟩,
          checkDescription_eq_ok_iff.mp accepted⟩
    all_goals cases accepted
  · rintro ⟨description, describes, usable⟩
    rw [check_of_describes describes, checkDescription_eq_ok_iff.mpr usable]

theorem check_eq_error_iff :
    check files path = .error failure ↔
      Rejected files path failure ∨ (files.locate path = .refused ∧ failure = .system) := by
  constructor
  · intro failed
    rw [check_eq_locate] at failed
    -- One case for each thing that a path can lead to.
    split at failed
    · next place content located =>
      left
      split at failed
      · next undecoded =>
        cases failed
        exact .notJson located undecoded
      · next description decoded =>
        have describes : Describes files path description := ⟨place, content, located, decoded⟩
        exact .unusable describes (checkDescription_eq_error_iff.mp failed)
    · next place entries located =>
      cases failed
      exact .inl (.directory (.inl ⟨place, entries, located⟩))
    · next located =>
      cases failed
      exact .inl (.directory (.inr located))
    · next located =>
      cases failed
      exact .inl (.missing (.inl located))
    · next located =>
      cases failed
      exact .inl (.missing (.inr located))
    · next located =>
      cases failed
      exact .inr ⟨located, rfl⟩
  · rintro (rejected | ⟨located, rfl⟩)
    · cases rejected with
      | missing nothing => rcases nothing with located | located <;> rw [check_eq_locate, located]
      | directory isDirectory =>
        rcases isDirectory with ⟨place, entries, located⟩ | located <;>
          rw [check_eq_locate, located]
      | notJson located undecoded =>
        rw [check_eq_locate, located]
        dsimp only
        rw [undecoded]
      | unusable describes unusable =>
        rw [check_of_describes describes, checkDescription_eq_error_iff.mpr unusable]
    · rw [check_eq_locate, located]

theorem isPackFault_of_check (failed : check files path = .error failure) :
    failure.isPackFault = true ∨ failure = .system :=
  (check_eq_error_iff.mp failed).imp Rejected.isPackFault And.right

/-! ## What does not count -/

theorem hasName_of_fieldAdded (added : FieldAdded key address option option')
    (other : (address, key) ≠ ([], "name")) : hasName option' = hasName option := by
  cases added with
  | here before after value =>
    have different : "name" ≠ key := by
      rintro rfl
      exact other rfl
    rw [hasName, hasName, field?_append_cons_of_ne before after different]
  | field before after name inside =>
    by_cases same : name = "name"
    · -- A field can only be added inside of the name if that is no text, and it stays none.
      subst same
      simp only [hasName, Json.field?, List.lookup_append, List.lookup_cons_self]
      cases before.lookup "name" with
      | none => cases inside <;> rfl
      | some value => rfl
    · have different : "name" ≠ name := fun equal => same equal.symm
      rw [hasName, hasName, field?_append_cons_of_ne before after different,
        field?_append_cons_of_ne before after different]
  | item => rfl

theorem checkOptions_congr (same : hasName option' = hasName option) (index : Nat)
    (before after : List Json) :
    checkOptions index (before ++ option' :: after) =
      checkOptions index (before ++ option :: after) := by
  induction before generalizing index with
  | nil => rw [List.nil_append, List.nil_append, checkOptions, checkOptions, same]
  | cons first rest ih => rw [List.cons_append, List.cons_append, checkOptions, checkOptions, ih]

theorem checkDescription_of_addedElsewhere {other : Json}
    (added : AddedElsewhere description other) :
    checkDescription path other = checkDescription path description := by
  obtain ⟨address, key, irrelevant, added⟩ := added
  cases added with
  | here before after value =>
    have different : "compiler_options" ≠ key := by
      rintro rfl
      exact irrelevant (by decide)
    rw [checkDescription, checkDescription, present?_append_cons_of_ne before after different]
  | field before after name inside =>
    by_cases same : name = "compiler_options"
    · subst same
      rw [checkDescription_obj, checkDescription_obj]
      simp only [List.lookup_append, List.lookup_cons_self]
      cases before.lookup "compiler_options" with
      | some value => rfl
      | none =>
        -- The options are a list before and after, or an object before and after.
        cases inside with
        | here | field => rfl
        | @item address option option' items others inside =>
          have unnamed : (address, key) ≠ ([], "name") := by
            intro equal
            cases equal
            exact irrelevant (by decide)
          simp only [Option.none_or,
            checkOptions_congr (hasName_of_fieldAdded inside unnamed) 0 items others]
    · have different : "compiler_options" ≠ name := fun equal => same equal.symm
      rw [checkDescription, checkDescription, present?_append_cons_of_ne before after different,
        present?_append_cons_of_ne before after different]
  | item => rfl

theorem checkDescription_of_eqvGen {other : Json}
    (related : Relation.EqvGen AddedElsewhere description other) :
    checkDescription path other = checkDescription path description := by
  induction related with
  | rel _ _ added => exact checkDescription_of_addedElsewhere added
  | refl _ => rfl
  | symm _ _ _ ih => exact ih.symm
  | trans _ _ _ _ _ first second => exact second.trans first

/--
A pack is accepted exactly if its path leads to a file with a usable description. Otherwise what is
reported is that there is nothing, or a directory, or no JSON at the path, or what is wrong with the
description; the only other failure is that the system refuses to look. Fields that are added or
taken away, in any number and at any depth, make no difference unless they are the options or the
name of an option.
-/
theorem check_exact (files : FileTree) (path : Path) :
    (check files path = .ok () ↔
      ∃ description, Describes files path description ∧ Usable description) ∧
    (∀ failure, check files path = .error failure ↔
      Rejected files path failure ∨ (files.locate path = .refused ∧ failure = .system)) ∧
    ∀ files' description other, Describes files path description → Describes files' path other →
      Relation.EqvGen AddedElsewhere description other → check files' path = check files path := by
  refine ⟨check_eq_ok_iff, fun _ => check_eq_error_iff, ?_⟩
  intro files' description other describes describes' related
  rw [check_of_describes describes, check_of_describes describes',
    checkDescription_of_eqvGen related]

/-- A directory with a single file in it. -/
def packed (content : ByteArray) : FileTree :=
  ⟨[("pack.mcmeta", .file content)], .present []⟩

theorem describes_packed (decoded : Json.decode? content = some description) :
    Describes (packed content) (.ofText "pack.mcmeta") description :=
  ⟨["pack.mcmeta"], content, rfl, decoded⟩

/-- A new field beside the options, and one inside of a name that is no text. -/
theorem check_exact_of_nested_name :
    let options (name : Json) : Json := .arr [.obj [("name", .str "megu")], .obj [("name", name)]]
    let description := Json.obj [("compiler_options", options (.obj []))]
    let other := Json.obj [("pack", .null), ("compiler_options", options (.obj [("x", .null)]))]
    let files := packed ("\x7b\"compiler_options\": [\x7b\"name\": \"megu\"\x7d, " ++
      "\x7b\"name\": \x7b\x7d\x7d]\x7d").toUTF8
    let files' := packed ("\x7b\"pack\": null, \"compiler_options\": [" ++
      "\x7b\"name\": \"megu\"\x7d, \x7b\"name\": \x7b\"x\": null\x7d\x7d]\x7d").toUTF8
    let path := Path.ofText "pack.mcmeta"
    Describes files path description ∧ Describes files' path other ∧
      Relation.EqvGen AddedElsewhere description other ∧
      check files path = .error (.packForm path.text (nameless 1)) ∧
      check files' path = .error (.packForm path.text (nameless 1)) := by
  intro options description other files files' path
  have describes : Describes files path description := describes_packed (by decide +kernel)
  have describes' : Describes files' path other := describes_packed (by decide +kernel)
  -- The object that stands for a name is not the one that holds the name.
  have deep : AddedElsewhere description
      (.obj [("compiler_options", options (.obj [("x", .null)]))]) :=
    ⟨[.field "compiler_options", .item, .field "name"], "x", by decide,
      .field [] [] _ (.item [_] [] (.field [] [] _ (.here [] [] .null)))⟩
  have beside : AddedElsewhere (.obj [("compiler_options", options (.obj [("x", .null)]))]) other :=
    ⟨[], "pack", by decide, .here [] _ .null⟩
  have related : Relation.EqvGen AddedElsewhere description other :=
    .trans _ _ _ (.rel _ _ deep) (.rel _ _ beside)
  have named : ∀ option ∈ [Json.obj [("name", .str "megu")]], IsNamed option := by
    intro option member
    cases List.mem_singleton.mp member
    exact ⟨_, _, rfl, rfl⟩
  have unnamed : ¬IsNamed (.obj [("name", .obj [])]) := by
    rintro ⟨_, name, ⟨⟩, found⟩
    cases found
  have unusable : Unusable path.text description
      (.packForm path.text (nameless [Json.obj [("name", .str "megu")]].length)) :=
    .nameless rfl named unnamed
  obtain ⟨-, rejects, elsewhere⟩ := check_exact files path
  have rejected : check files path = .error (.packForm path.text (nameless 1)) :=
    (rejects _).mpr (.inl (.unusable describes unusable))
  exact ⟨describes, describes', related, rejected,
    (elsewhere files' description other describes describes' related).trans rejected⟩

theorem check_overlong {name : String} (overlong : FileTree.Overlong name)
    (present : files.workingDirectory = .present []) :
    check files (.ofText name) = .error .system := by
  rw [check_eq_locate, overlong.ofText_eq, overlong.locate_eq present]

/-- A path that is too long is not reported as one with nothing at it, or as anything else. -/
theorem check_passes_refusal :
    let files : FileTree := ⟨[], .present []⟩
    let path := Path.ofText (String.ofList (List.replicate 256 'n'))
    (∀ place, place ≠ [] → files.entryAt? place = none) ∧
      check files path = .error .system ∧ ¬Rejected files path .system := by
  refine ⟨?_, check_overlong FileTree.overlong_replicate rfl, fun rejected => ?_⟩
  · intro place inside
    cases place with
    | nil => exact absurd rfl inside
    | cons name rest => rfl
  · have packFault := rejected.isPackFault
    cases packFault

end Pack

end LootScript
