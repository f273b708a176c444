import LootScript.Proofs.FileTree
import LootScript.Proofs.OrderedMap
import Mathlib.Data.Option.Basic

/-!
# Listing directories

The entries of a directory come in no order that means anything. Trees that differ only in the order
in which their directories are listed have the same things at the same paths, and a directory gives
the same files, once each and in some order. An entry that is listed is found under the path of the
directory with its name added.
-/
namespace LootScript

/-- The same file, or directories with the same names in any order. -/
inductive Entry.Relisted : Entry → Entry → Prop
  | file (content : ByteArray) : Relisted (.file content) (.file content)
  | directory {entries entries' : List (String × Entry)} :
    (entries.map Prod.fst).Perm (entries'.map Prod.fst) →
      Relisted (.directory entries) (.directory entries')

theorem Entry.relisted_self (entry : Entry) : entry.Relisted entry := by
  cases entry with
  | file content => exact .file content
  | directory entries => exact .directory (.refl _)

inductive Located.Relisted : Located → Located → Prop
  | found {entry entry' : Entry} (place : List String) : entry.Relisted entry' →
    Relisted (.found place entry) (.found place entry')
  | deleted : Relisted .deleted .deleted
  | absent : Relisted .absent .absent
  | refused : Relisted .refused .refused
  | unnameable : Relisted .unnameable .unnameable

namespace FileTree

variable {files files' : FileTree} {entry entry' : Entry}
  {entries entries' : List (String × Entry)} {place place' parts : List String} {path : Path}
  {name : String}

/-- Each directory names its entries once. -/
def Distinct (files : FileTree) : Prop :=
  ∀ place entries, files.entryAt? place = some (.directory entries) →
    (entries.map Prod.fst).Nodup

/-- The same things are at the same places, but directories may be listed in any order. -/
structure Relisted (files files' : FileTree) : Prop where
  start : files.workingDirectory = files'.workingDirectory
  places : ∀ place, Option.Rel Entry.Relisted (files.entryAt? place) (files'.entryAt? place)

/-! ## Places -/

theorem descend_append (entry : Entry) (place more : List String) :
    descend entry (place ++ more) = (descend entry place).bind (descend · more) := by
  induction place generalizing entry with
  | nil => cases entry <;> rfl
  | cons name rest ih =>
    cases entry with
    | file content => rfl
    | directory entries =>
      simp only [List.cons_append, descend, Option.bind_assoc, ih]

/-- What a directory has under a name is at the place with the name added. -/
theorem entryAt?_concat (here : files.entryAt? place = some (.directory entries)) (name : String) :
    files.entryAt? (place ++ [name]) = entries.lookup name := by
  have below : descend (.directory files.root) place = some (.directory entries) := here
  rw [entryAt?, descend_append, below]
  simp [descend]

theorem entryAt?_of_follow (here : files.entryAt? place = some entry)
    (found : files.follow place entry parts = .found place' entry') :
    files.entryAt? place' = some entry' := by
  -- On the parts: each step goes from an entry of the tree to another one.
  induction parts generalizing place entry with
  | nil =>
    cases entry <;> (cases found; exact here)
  | cons part rest ih =>
    cases entry with
    | file content => cases found
    | directory entries =>
      rw [follow] at found
      split at found
      · split at found
        · next parent above => exact ih above found
        · cases found
      · split at found
        · cases found
        · split at found
          · next below inside =>
            exact ih ((entryAt?_concat here part).trans inside) found
          · cases found

theorem entryAt?_cons (files : FileTree) (name : String) (rest : List String) :
    files.entryAt? (name :: rest) = (files.root.lookup name).bind (descend · rest) := by
  simp [entryAt?, descend]

/-- With nothing inside of the directories below the root, only the names at the root count. -/
theorem distinct_of_shallow (once : (files.root.map Prod.fst).Nodup)
    (shallow : ∀ name below, files.root.lookup name = some (.directory below) → below = []) :
    files.Distinct := by
  intro place entries here
  cases place with
  | nil =>
    rw [entryAt?_nil] at here
    cases here
    exact once
  | cons name rest =>
    rw [entryAt?_cons, Option.bind_eq_some_iff] at here
    obtain ⟨next, found, below⟩ := here
    cases next with
    | file content => cases rest <;> cases below
    | directory inner =>
      cases shallow name inner found
      cases rest <;> cases below
      exact .nil

/-! ## Following longer paths -/

theorem follow_append (files : FileTree) (place : List String) (entry : Entry)
    (parts more : List String) : files.follow place entry (parts ++ more) =
      match files.follow place entry parts with
      | .found place' entry' => files.follow place' entry' more
      | other => other := by
  induction parts generalizing place entry with
  | nil => cases entry <;> rfl
  | cons part rest ih =>
    cases entry with
    | file content => rfl
    | directory entries =>
      rw [List.cons_append, follow, follow]
      by_cases climbs : part = ".."
      · simp only [if_pos climbs]
        cases files.entryAt? place.dropLast with
        | none => rfl
        | some parent => exact ih _ _
      · simp only [if_neg climbs]
        split
        · rfl
        · cases entries.lookup part with
          | none => rfl
          | some below => exact ih _ _

/-- Where the system begins to follow a path, and along which parts, if it can begin at all. -/
def origin? (start : WorkingDirectory) (path : Path) : Option (List String × List String) :=
  if path.isAbsolute then some ([], path.parts)
  else match start, path.parts with
    | .present place, parts => some (place, parts)
    | .deleted _, [] => none
    | .deleted parent, part :: rest => if part = ".." then some (parent, rest) else none

theorem locate_eq (nameable : path.isNameable = true) (short : isTooLong path = false) :
    files.locate path = match origin? files.workingDirectory path with
      | some (place, parts) => files.followFrom place parts
      | none => if path.parts = [] then .deleted else .absent := by
  unfold locate origin?
  simp only [nameable, short, Bool.not_true, Bool.false_eq_true, if_false]
  cases path.isAbsolute with
  | true => rfl
  | false =>
    cases files.workingDirectory with
    | present place => rfl
    | deleted parent =>
      cases path.parts with
      | nil => rfl
      | cons part rest =>
        by_cases climbs : part = ".." <;> simp [climbs]

theorem granted_of_locate (located : files.locate path = .found place entry) :
    path.isNameable = true ∧ isTooLong path = false := by
  unfold locate at located
  split at located
  · cases located
  · next nameable =>
    split at located
    · cases located
    · next short => exact ⟨by simpa using nameable, by simpa using short⟩

theorem exists_origin_of_locate (located : files.locate path = .found place entry) :
    ∃ start parts origin, origin? files.workingDirectory path = some (start, parts) ∧
      files.entryAt? start = some origin ∧
      files.follow start origin parts = .found place entry := by
  obtain ⟨nameable, short⟩ := granted_of_locate located
  rw [locate_eq nameable short] at located
  split at located
  · next start parts begins =>
    unfold followFrom at located
    split at located
    · next origin here => exact ⟨start, parts, origin, begins, here, located⟩
    · cases located
  · split at located <;> cases located

theorem entryAt?_of_locate (located : files.locate path = .found place entry) :
    files.entryAt? place = some entry := by
  obtain ⟨start, parts, origin, -, here, found⟩ := exists_origin_of_locate located
  exact entryAt?_of_follow here found

theorem origin?_child {start : WorkingDirectory}
    (begins : origin? start path = some (place, parts)) (name : String) :
    origin? start (path.child name) = some (place, parts ++ [name]) := by
  unfold origin? at begins ⊢
  have anchored : (path.child name).isAbsolute = path.isAbsolute := rfl
  rw [anchored]
  split at begins
  · next absolute =>
    cases begins
    rw [if_pos absolute]
    rfl
  · next relative =>
    rw [if_neg relative]
    cases start with
    | present start =>
      cases begins
      rfl
    | deleted parent =>
      -- From a deleted directory the path begins by going up, so it has parts.
      unfold Path.child
      cases split : path.parts with
      | nil => simp [split] at begins
      | cons part rest =>
        simp only [split] at begins
        simp only [List.cons_append]
        split at begins
        · next climbs =>
          cases begins
          rw [if_pos climbs]
        · cases begins

/-- What a directory lists is found by its path, unless its name is too long. -/
theorem locate_child (located : files.locate path = .found place (.directory entries))
    (nameable : (path.child name).isNameable = true) (short : isTooLong (path.child name) = false)
    (plain : name ≠ "..") : files.locate (path.child name) =
      if maxNameBytes < name.utf8ByteSize then .refused
      else match entries.lookup name with
        | some entry => .found (place ++ [name]) entry
        | none => .absent := by
  obtain ⟨start, parts, origin, begins, here, found⟩ := exists_origin_of_locate located
  rw [locate_eq nameable short, origin?_child begins]
  simp only [followFrom, here, follow_append, found]
  rw [follow, if_neg plain]
  split
  · rfl
  · cases entries.lookup name with
    | none => rfl
    | some entry => cases entry <;> rfl

/-! ## The files of a directory -/

/-- The names of the files among entries. -/
def regular (entries : List (String × Entry)) : List String :=
  entries.filterMap fun
    | (name, .file _) => some name
    | (_, .directory _) => none

theorem fileNames_eq (listed : files.list path = .ok entries) :
    files.fileNames path =
      if (entries.map Prod.fst).any fun name => isTooLong (path.child name) then .error .system
      else .ok (regular entries) := by
  rw [fileNames, listed, List.any_map]
  rfl

theorem mem_regular_iff :
    name ∈ regular entries ↔ ∃ content, (name, .file content) ∈ entries := by
  rw [regular, List.mem_filterMap]
  constructor
  · rintro ⟨⟨other, entry⟩, member, named⟩
    cases entry with
    | file content => cases named; exact ⟨content, member⟩
    | directory below => cases named
  · rintro ⟨content, member⟩
    exact ⟨_, member, rfl⟩

theorem regular_sublist (entries : List (String × Entry)) :
    (regular entries).Sublist (entries.map Prod.fst) := by
  induction entries with
  | nil => exact .slnil
  | cons first rest ih =>
    obtain ⟨name, entry⟩ := first
    cases entry with
    | file content => exact ih.cons_cons name
    | directory below => exact ih.cons name

theorem isDirectory_of_list (listed : files.list path = .ok entries) :
    files.isDirectory path = .ok true := by
  unfold list at listed
  unfold isDirectory
  split at listed
  · next located => rw [located]
  · next located => rw [located]
  · cases listed

theorem nodup_of_list (distinct : files.Distinct) (listed : files.list path = .ok entries) :
    (entries.map Prod.fst).Nodup := by
  unfold list at listed
  split at listed
  · next place found located =>
    cases listed
    exact distinct place entries (entryAt?_of_locate located)
  · cases listed
    exact .nil
  · cases listed

/-- What a directory lists as a file is no directory when it is looked at by its path. -/
theorem isDirectory_child_ne (distinct : files.Distinct) (listed : files.list path = .ok entries)
    {content : ByteArray} (member : (name, .file content) ∈ entries) (plain : name ≠ "..") :
    files.isDirectory (path.child name) ≠ .ok true := by
  intro directory
  have once := nodup_of_list distinct listed
  unfold list at listed
  split at listed
  · next place found located =>
    cases listed
    -- Since its name is listed once, the path leads to the file, if it leads anywhere.
    have found := (OrderedMap.lookup_eq_some_iff_mem once).mpr member
    unfold isDirectory at directory
    cases nameable : (path.child name).isNameable with
    | false => simp [locate, nameable] at directory
    | true =>
      cases long : isTooLong (path.child name) with
      | true => simp [locate, nameable, long] at directory
      | false =>
        rw [locate_child located nameable long plain, found] at directory
        by_cases overlong : maxNameBytes < name.utf8ByteSize <;> simp [overlong] at directory
  · cases listed
    cases member
  · cases listed

/-! ## Listing in another order -/

/-- The entries at the root may come in any order. -/
theorem relisted_of_perm {start : WorkingDirectory} (once : (entries.map Prod.fst).Nodup)
    (perm : entries.Perm entries') : Relisted ⟨entries, start⟩ ⟨entries', start⟩ where
  start := rfl
  places place := by
    cases place with
    | nil =>
      rw [entryAt?_nil, entryAt?_nil]
      exact .some (.directory (perm.map Prod.fst))
    | cons name rest =>
      -- Below the root nothing has changed, not even the order.
      have found := OrderedMap.lookup_eq_of_perm once perm name
      rw [entryAt?_cons, entryAt?_cons]
      simp only [found]
      cases (entries'.lookup name).bind (descend · rest) with
      | none => exact .none
      | some entry => exact .some entry.relisted_self

namespace Relisted

variable (same : files.Relisted files')

include same

theorem relisted_entry (here : files.entryAt? place = some entry) :
    ∃ entry', files'.entryAt? place = some entry' ∧ entry.Relisted entry' := by
  have places := same.places place
  rw [here] at places
  cases there : files'.entryAt? place with
  | none => rw [there] at places; cases places
  | some entry' =>
    rw [there] at places
    cases places with
    | some alike => exact ⟨entry', rfl, alike⟩

theorem entryAt?_eq_none (here : files.entryAt? place = none) : files'.entryAt? place = none := by
  have places := same.places place
  rw [here] at places
  cases there : files'.entryAt? place with
  | none => rfl
  | some entry' => rw [there] at places; cases places

theorem relisted_follow (alike : entry.Relisted entry') (here : files.entryAt? place = some entry)
    (here' : files'.entryAt? place = some entry') (parts : List String) :
    (files.follow place entry parts).Relisted (files'.follow place entry' parts) := by
  -- On the parts: each step goes to the same place in both trees.
  induction parts generalizing place entry entry' with
  | nil => cases alike with
    | file content => exact .found place (.file content)
    | directory names => exact .found place (.directory names)
  | cons part rest ih => cases alike with
    | file content => exact .absent
    | @directory entries entries' names =>
      rw [follow, follow]
      by_cases climbs : part = ".."
      · rw [if_pos climbs, if_pos climbs]
        cases above : files.entryAt? place.dropLast with
        | none =>
          rw [same.entryAt?_eq_none above]
          exact .absent
        | some parent =>
          obtain ⟨parent', above', alike⟩ := same.relisted_entry above
          rw [above']
          exact ih alike above above'
      · rw [if_neg climbs, if_neg climbs]
        split
        · exact .refused
        · have below := entryAt?_concat here part
          have below' := entryAt?_concat here' part
          rw [← below, ← below']
          cases inside : files.entryAt? (place ++ [part]) with
          | none =>
            rw [same.entryAt?_eq_none inside]
            exact .absent
          | some next =>
            obtain ⟨next', inside', alike⟩ := same.relisted_entry inside
            rw [inside']
            exact ih alike inside inside'

theorem relisted_locate (path : Path) : (files.locate path).Relisted (files'.locate path) := by
  cases nameable : path.isNameable with
  | false => simp only [locate, nameable]; exact .unnameable
  | true =>
    cases long : isTooLong path with
    | true => simp only [locate, nameable, long]; exact .refused
    | false =>
      rw [locate_eq nameable long, locate_eq nameable long, ← same.start]
      cases origin? files.workingDirectory path with
      | none =>
        dsimp only
        split
        · exact .deleted
        · exact .absent
      | some origin =>
        dsimp only [followFrom]
        cases here : files.entryAt? origin.1 with
        | none =>
          rw [same.entryAt?_eq_none here]
          exact .absent
        | some entry =>
          obtain ⟨entry', here', alike⟩ := same.relisted_entry here
          rw [here']
          exact same.relisted_follow alike here here' origin.2

theorem exists?_eq (path : Path) : files.exists? path = files'.exists? path := by
  have alike := same.relisted_locate path
  unfold exists?
  generalize files.locate path = located, files'.locate path = located' at alike
  cases alike <;> rfl

theorem isDirectory_eq (path : Path) : files.isDirectory path = files'.isDirectory path := by
  have alike := same.relisted_locate path
  unfold isDirectory
  generalize files.locate path = located, files'.locate path = located' at alike
  cases alike with
  | found place alike => cases alike <;> rfl
  | _ => rfl

theorem read_eq (path : Path) : files.read path = files'.read path := by
  have alike := same.relisted_locate path
  unfold read
  generalize files.locate path = located, files'.locate path = located' at alike
  cases alike with
  | found place alike => cases alike <;> rfl
  | _ => rfl

theorem relisted_lookup (here : files.entryAt? place = some (.directory entries))
    (here' : files'.entryAt? place = some (.directory entries')) (name : String) :
    Option.Rel Entry.Relisted (entries.lookup name) (entries'.lookup name) := by
  rw [← entryAt?_concat here, ← entryAt?_concat here']
  exact same.places (place ++ [name])

theorem perm_regular (distinct : files.Distinct)
    (here : files.entryAt? place = some (.directory entries))
    (here' : files'.entryAt? place = some (.directory entries')) :
    (entries.map Prod.fst).Perm (entries'.map Prod.fst) ∧
      (regular entries).Perm (regular entries') := by
  have names : (entries.map Prod.fst).Perm (entries'.map Prod.fst) := by
    have alike := same.places place
    rw [here, here'] at alike
    cases alike with
    | some alike => cases alike with
      | directory names => exact names
  have once := distinct place entries here
  have once' := names.nodup_iff.mp once
  refine ⟨names, ?_⟩
  rw [List.perm_ext_iff_of_nodup (once.sublist (regular_sublist entries))
    (once'.sublist (regular_sublist entries'))]
  intro name
  -- A name stands for a file in both trees or in neither.
  simp only [mem_regular_iff, ← OrderedMap.lookup_eq_some_iff_mem once,
    ← OrderedMap.lookup_eq_some_iff_mem once']
  have alike := same.relisted_lookup here here' name
  generalize entries.lookup name = found, entries'.lookup name = found' at alike
  cases alike with
  | none => rfl
  | some alike => cases alike <;> simp

theorem list_relisted (distinct : files.Distinct) (path : Path) :
    (∃ failure, files.list path = .error failure ∧ files'.list path = .error failure) ∨
    ∃ entries entries', files.list path = .ok entries ∧ files'.list path = .ok entries' ∧
      (entries.map Prod.fst).Perm (entries'.map Prod.fst) ∧
      (regular entries).Perm (regular entries') := by
  have alike := same.relisted_locate path
  unfold list
  generalize located : files.locate path = found, located' : files'.locate path = found' at alike
  cases alike with
  | found place alike => cases alike with
    | file content => exact .inl ⟨_, rfl, rfl⟩
    | directory names =>
      have regular := same.perm_regular distinct (entryAt?_of_locate located)
        (entryAt?_of_locate located')
      exact .inr ⟨_, _, rfl, rfl, regular⟩
  | deleted => exact .inr ⟨[], [], rfl, rfl, .refl _, .refl _⟩
  | absent | refused | unnameable => exact .inl ⟨_, rfl, rfl⟩

/-- A directory that is listed in another order gives the same files, or fails alike. -/
theorem fileNames_relisted (distinct : files.Distinct) (path : Path) :
    (∃ failure, files.fileNames path = .error failure ∧
      files'.fileNames path = .error failure) ∨
    ∃ names names', files.fileNames path = .ok names ∧ files'.fileNames path = .ok names' ∧
      names.Perm names' := by
  rcases same.list_relisted distinct path with ⟨failure, failed, failed'⟩ |
    ⟨entries, entries', listed, listed', names, regular⟩
  · refine .inl ⟨failure, ?_, ?_⟩
    · rw [fileNames, failed]
      rfl
    · rw [fileNames, failed']
      rfl
  · rw [fileNames_eq listed, fileNames_eq listed', names.any_eq]
    split
    · exact .inl ⟨_, rfl, rfl⟩
    · exact .inr ⟨_, _, rfl, rfl, regular⟩

end Relisted

end FileTree

end LootScript
