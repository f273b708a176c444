import LootScript.FileTree.Basic
import LootScript.Proofs.Failure
import LootScript.Proofs.Path

/-!
# What is at a place

A path without `..` from the root leads to the entry at its place, unless the system refuses to look
at the path: because the path is too long, or because a directory on the way is asked for a name
that is too long. So a look-up that is not refused tells whether there is a file.
-/
namespace LootScript

namespace FileTree

variable {files : FileTree} {entry next : Entry} {entries : List (String × Entry)}
  {place parts : List String} {part : String} {path : Path} {failure : Failure}

/-- There is a regular file at the place. -/
def HasFile (files : FileTree) (place : List String) : Prop :=
  ∃ content, files.entryAt? place = some (.file content)

/-- On the way down from an entry, some directory is asked for a name that is too long. -/
inductive RefusesBelow : Entry → List String → Prop
  | here {entries : List (String × Entry)} {part : String} {rest : List String} :
    maxNameBytes < part.utf8ByteSize → RefusesBelow (.directory entries) (part :: rest)
  | further {entries : List (String × Entry)} {part : String} {rest : List String} {next : Entry} :
    entries.lookup part = some next → RefusesBelow next rest →
      RefusesBelow (.directory entries) (part :: rest)

/-- The system does not say what is at the place. -/
def Refuses (files : FileTree) (place : List String) : Prop :=
  isTooLong (.ofPlace place) = true ∨ RefusesBelow (.directory files.root) place

/-! ## Following parts -/

theorem entryAt?_nil (files : FileTree) : files.entryAt? [] = some (.directory files.root) := by
  simp [entryAt?, descend]

theorem follow_of_refusesBelow (refuses : RefusesBelow entry parts) (plain : ".." ∉ parts)
    (place : List String) : files.follow place entry parts = .refused := by
  -- On the derivation: it stops at the name that is too long.
  induction refuses generalizing place with
  | here long =>
    rw [List.mem_cons, not_or] at plain
    rw [follow, if_neg (Ne.symm plain.1), if_pos long]
  | further found _ ih =>
    rw [List.mem_cons, not_or] at plain
    rw [follow, if_neg (Ne.symm plain.1)]
    split
    · -- This name may be too long as well.
      rfl
    · rw [found]
      exact ih plain.2 _

theorem follow_of_not_refusesBelow (granted : ¬ RefusesBelow entry parts) (plain : ".." ∉ parts)
    (place : List String) :
    files.follow place entry parts =
      match descend entry parts with
      | some found => .found (place ++ parts) found
      | none => .absent := by
  -- On the parts, from any entry: each step leads to the entry of that name.
  induction parts generalizing place entry with
  | nil => cases entry <;> simp [follow, descend]
  | cons part rest ih =>
    rw [List.mem_cons, not_or] at plain
    cases entry with
    | file content => rfl
    | directory entries =>
      have short : ¬ maxNameBytes < part.utf8ByteSize := fun long => granted (.here long)
      rw [follow, if_neg (Ne.symm plain.1), if_neg short]
      cases found : entries.lookup part with
      | none => simp [descend, found]
      | some next =>
        have further : ¬ RefusesBelow next rest := fun refuses => granted (.further found refuses)
        simp only [descend, found, Option.bind_some, ih further plain.2, List.append_assoc,
          List.singleton_append]

/-! ## Locating places -/

theorem locate_ofPlace (plain : ".." ∉ place) (nameable : (Path.ofPlace place).isNameable = true)
    (granted : ¬ files.Refuses place) :
    files.locate (.ofPlace place) =
      match files.entryAt? place with
      | some entry => .found place entry
      | none => .absent := by
  rw [Refuses, not_or] at granted
  have absolute : (Path.ofPlace place).isAbsolute = true := rfl
  simp only [locate, nameable, Bool.not_true, Bool.false_eq_true, if_false, granted.1, absolute,
    if_true, followFrom, entryAt?_nil]
  exact follow_of_not_refusesBelow granted.2 plain []

theorem locate_of_refuses (plain : ".." ∉ place)
    (nameable : (Path.ofPlace place).isNameable = true) (refuses : files.Refuses place) :
    files.locate (.ofPlace place) = .refused := by
  simp only [locate, nameable, Bool.not_true, Bool.false_eq_true, if_false]
  split
  · rfl
  · next short =>
    have below := refuses.resolve_left short
    simp only [followFrom, entryAt?_nil]
    exact follow_of_refusesBelow below plain []

theorem isFile_of_refuses (plain : ".." ∉ place)
    (nameable : (Path.ofPlace place).isNameable = true) (refuses : files.Refuses place) :
    files.isFile (.ofPlace place) = .error .system := by
  rw [isFile, locate_of_refuses plain nameable refuses]

theorem isFile_ofPlace (plain : ".." ∉ place)
    (nameable : (Path.ofPlace place).isNameable = true) (granted : ¬ files.Refuses place) :
    ∃ answer, files.isFile (.ofPlace place) = .ok answer ∧
      (answer = true ↔ files.HasFile place) := by
  rw [isFile, locate_ofPlace plain nameable granted, HasFile]
  cases files.entryAt? place with
  | none => exact ⟨false, rfl, by simp⟩
  | some entry =>
    cases entry with
    | file content => exact ⟨true, rfl, by simp⟩
    | directory entries => exact ⟨false, rfl, by simp⟩

/-- An answer is the truth. -/
theorem hasFile_iff_of_isFile {answer : Bool} (plain : ".." ∉ place)
    (nameable : (Path.ofPlace place).isNameable = true)
    (answered : files.isFile (.ofPlace place) = .ok answer) :
    answer = true ↔ files.HasFile place := by
  by_cases refuses : files.Refuses place
  · rw [isFile_of_refuses plain nameable refuses] at answered
    cases answered
  · obtain ⟨answer', given, truth⟩ := isFile_ofPlace plain nameable refuses
    rw [answered] at given
    cases given
    exact truth

theorem refuses_of_isFile (plain : ".." ∉ place)
    (nameable : (Path.ofPlace place).isNameable = true)
    (failed : files.isFile (.ofPlace place) = .error failure) : files.Refuses place := by
  by_contra granted
  obtain ⟨answer, given, -⟩ := isFile_ofPlace plain nameable granted
  rw [failed] at given
  cases given

/-! ## Looking at any path -/

theorem eq_system_of_isFile (failed : files.isFile path = .error failure) : failure = .system := by
  unfold isFile at failed
  split at failed <;> cases failed
  rfl

theorem isDirectory_eq_error_iff :
    files.isDirectory path = .error failure ↔
      failure = .system ∧ files.locate path = .refused := by
  rw [isDirectory]
  cases files.locate path with
  | found place entry => cases entry <;> simp
  | refused => simp [eq_comm]
  | _ => simp

theorem exists?_eq_error_iff :
    files.exists? path = .error failure ↔ failure = .system ∧ files.locate path = .refused := by
  rw [exists?]
  cases files.locate path with
  | refused => simp [eq_comm]
  | _ => simp

theorem eq_system_of_isDirectory (failed : files.isDirectory path = .error failure) :
    failure = .system :=
  (isDirectory_eq_error_iff.mp failed).1

theorem eq_system_of_exists? (failed : files.exists? path = .error failure) :
    failure = .system :=
  (exists?_eq_error_iff.mp failed).1

/-- A path that can be handed to the system is refused by the system, and by nothing else. -/
theorem eq_system_of_read (nameable : path.isNameable = true)
    (failed : files.read path = .error failure) : failure = .system := by
  unfold read at failed
  split at failed
  · cases failed
  · rw [refusal, if_pos nameable] at failed
    exact (Except.error.inj failed).symm

theorem exists?_of_isDirectory (directory : files.isDirectory path = .ok true) :
    files.exists? path = .ok true := by
  unfold isDirectory at directory
  unfold exists?
  split at directory <;> simp_all

theorem isNameable_of_locate (reached : files.locate path ≠ .unnameable) :
    path.isNameable = true := by
  by_contra unnameable
  rw [locate, if_pos (by simpa using unnameable)] at reached
  exact reached rfl

theorem isNameable_of_exists? (isThere : files.exists? path = .ok true) :
    path.isNameable = true := by
  apply isNameable_of_locate
  intro unnameable
  rw [exists?, unnameable] at isThere
  cases isThere

theorem isNameable_of_isDirectory (directory : files.isDirectory path = .ok true) :
    path.isNameable = true := by
  apply isNameable_of_locate
  intro unnameable
  rw [isDirectory, unnameable] at directory
  cases directory

/-- What keeps the files right inside of a path from being listed. -/
inductive Unlistable (files : FileTree) (path : Path) : Prop
  | refused : files.locate path = .refused → Unlistable files path
  | file {place : List String} {content : ByteArray} :
    files.locate path = .found place (.file content) → Unlistable files path
  /-- Each entry is looked at by its own path. -/
  | entry {entries : List (String × Entry)} {name : String} : files.list path = .ok entries →
    name ∈ entries.map Prod.fst →
    isTooLong (path.child name) = true ∨ files.locate (path.child name) = .refused →
    Unlistable files path

theorem unlistable_of_fileNames (isThere : files.exists? path = .ok true)
    (failed : files.fileNames path = .error failure) :
    failure = .system ∧ files.Unlistable path := by
  rw [fileNames, bind_eq_error_iff] at failed
  rcases failed with unlisted | ⟨entries, listed, failed⟩
  · -- There is something at the path, so what is not a directory is a file.
    rw [list] at unlisted
    rw [exists?] at isThere
    cases located : files.locate path with
    | found place entry =>
      cases entry with
      | directory entries => rw [located] at unlisted; cases unlisted
      | file content =>
        have reached : files.locate path ≠ .unnameable := by simp [located]
        simp only [located, refusal, isNameable_of_locate reached, if_true] at unlisted
        cases unlisted
        exact ⟨rfl, .file located⟩
    | deleted => rw [located] at unlisted; cases unlisted
    | absent | refused | unnameable => rw [located] at isThere; cases isThere
  · split at failed
    · next long =>
      cases failed
      obtain ⟨⟨name, entry⟩, member, long⟩ := List.any_eq_true.mp long
      exact ⟨rfl, .entry listed (List.mem_map_of_mem member) (.inl long)⟩
    · cases failed

theorem mem_of_fileNames {names : List String} {name : String}
    (listed : files.fileNames path = .ok names) (member : name ∈ names) :
    ∃ entries, files.list path = .ok entries ∧ name ∈ entries.map Prod.fst := by
  rw [fileNames, bind_eq_ok_iff] at listed
  obtain ⟨entries, found, listed⟩ := listed
  refine ⟨entries, found, ?_⟩
  split at listed
  · cases listed
  · cases listed
    obtain ⟨⟨other, entry⟩, inside, isFile⟩ := List.mem_filterMap.mp member
    cases entry with
    | file content => cases isFile; exact List.mem_map_of_mem inside
    | directory below => cases isFile

theorem isDirectory_of_read {content : ByteArray} (stored : files.read path = .ok content) :
    files.isDirectory path = .ok false ∧ files.exists? path = .ok true := by
  unfold FileTree.read at stored
  unfold isDirectory exists?
  split at stored
  · next located => simp [located]
  · cases stored

/-! ## Resolving -/

theorem absolute_join {root start : Path} (path : Path)
    (absolute : files.absolute root = .ok start) :
    files.absolute (root.join path) = .ok (start.join path) := by
  unfold FileTree.absolute at absolute ⊢
  rw [Path.isAbsolute_join]
  cases rooted : root.isAbsolute with
  | true =>
    rw [rooted] at absolute
    cases absolute
    rfl
  | false =>
    cases rooted' : path.isAbsolute with
    | true =>
      -- The path says alone where it leads, from wherever it is seen.
      simp only [Path.join, rooted', Bool.or_true, if_true]
    | false =>
      cases here : files.workingDirectory with
      | deleted above => rw [rooted, here] at absolute; cases absolute
      | present place =>
        rw [rooted, here] at absolute
        cases absolute
        rw [Path.join_assoc]
        rfl

/-- From a directory a path leads where it leads from the resolved directory. -/
theorem resolve_join {root directory path : Path} (resolved : files.resolve root = .ok directory)
    (nameable : path.isNameable = true) :
    files.resolve (root.join path) = .ok (directory.join path).normal := by
  unfold resolve at resolved ⊢
  split at resolved
  · next named =>
    obtain ⟨start, absolute, rfl⟩ := map_eq_ok_iff.mp resolved
    rw [if_pos (Path.isNameable_join named nameable), absolute_join path absolute,
      Path.normal_join_normal]
    rfl
  · cases resolved

theorem eq_system_of_resolve (named : path.isNameable = true)
    (failed : files.resolve path = .error failure) : failure = .system := by
  rw [resolve, if_pos named, map_eq_error_iff, FileTree.absolute] at failed
  split at failed
  · cases failed
  · split at failed <;> cases failed
    rfl

/-- No name on the way to where relative paths start holds a null character; on a disk none can. -/
def StartsNameable (files : FileTree) : Prop :=
  ∀ place, files.workingDirectory = .present place → (Path.ofPlace place).isNameable = true

theorem isNameable_of_resolve {root directory : Path} (start : files.StartsNameable)
    (resolved : files.resolve root = .ok directory) : directory.isNameable = true := by
  unfold resolve at resolved
  split at resolved
  · next named =>
    obtain ⟨path, absolute, rfl⟩ := map_eq_ok_iff.mp resolved
    apply Path.isNameable_normal
    unfold FileTree.absolute at absolute
    split at absolute
    · cases absolute
      exact named
    · split at absolute
      · next place here =>
        cases absolute
        exact Path.isNameable_join (start place here) named
      · cases absolute
  · cases resolved

/-! ## A name that is too long -/

/-- A name of one letter, repeated more often than a name may be long. -/
structure Overlong (name : String) : Prop where
  long : maxNameBytes < name.utf8ByteSize
  letters : ∀ c ∈ name.toList, c = 'n'

theorem overlong_replicate : Overlong (String.ofList (List.replicate 256 'n')) where
  long := by decide +kernel
  letters := by
    rw [String.toList_ofList]
    exact fun c member => List.eq_of_mem_replicate member

namespace Overlong

variable {name : String} (overlong : Overlong name)

include overlong

theorem not_mem {c : Char} (other : c ≠ 'n') : c ∉ name.toList :=
  fun member => other (overlong.letters c member)

theorem ne_of_short (short : String) (fits : short.utf8ByteSize ≤ maxNameBytes) : name ≠ short := by
  rintro rfl
  exact Nat.lt_irrefl _ (Nat.lt_of_lt_of_le overlong.long fits)

/-- An overlong name stands for itself as a path. -/
theorem ofText_eq : Path.ofText name = ⟨.relative, [name]⟩ := by
  have dot := overlong.ne_of_short "." (by decide)
  have nothing := overlong.ne_of_short "" (by decide)
  have single := Path.ofText_of_not_mem (overlong.not_mem (c := '/') (by decide))
    (by simpa using nothing) (fun same => dot (by rw [← String.toList_inj, same]; rfl))
  rwa [String.ofList_toList] at single

/-- The system does not look an overlong name up in a directory that it can reach. -/
theorem locate_eq (present : files.workingDirectory = .present []) :
    files.locate ⟨.relative, [name]⟩ = .refused := by
  have nameable : (Path.mk .relative [name]).isNameable = true := by
    rw [Path.isNameable_iff]
    intro part member
    rw [List.mem_singleton.mp member]
    exact overlong.not_mem (by decide)
  have climbs := overlong.ne_of_short ".." (by decide)
  have plain : ".." ∉ [name] := by simpa using climbs.symm
  have followed : files.followFrom [] [name] = .refused := by
    rw [followFrom, entryAt?_nil]
    exact follow_of_refusesBelow (.here overlong.long) plain []
  have relative : (Path.mk .relative [name]).isAbsolute = false := rfl
  simp only [locate, nameable, relative, present, followed, Bool.not_true, Bool.false_eq_true,
    if_false, ite_self]

theorem isDirectory_eq (present : files.workingDirectory = .present []) :
    files.isDirectory ⟨.relative, [name]⟩ = .error .system := by
  rw [isDirectory, overlong.locate_eq present]

end Overlong

end FileTree

end LootScript
