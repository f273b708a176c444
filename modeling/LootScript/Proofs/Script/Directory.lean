import LootScript.Proofs.Failure
import LootScript.Proofs.FileTree.Enumeration
import LootScript.Script.File
import Mathlib.Data.List.Sort
import Mathlib.Data.String.Basic

/-!
# Directories of scripts

A directory stands for its script files, in the order of their names. In whatever order a directory
is listed, the same files are interpreted one after the other, and the first one that fails ends it.
-/
namespace LootScript

namespace Script

variable {files files' : FileTree} {entries : List (String × Entry)} {path : Path}
  {paths : List Path} {names names' : List String} {scripts : List Script} {failure : Failure}

/-! ## The names of script files -/

/-- The names of the script files among the entries of a directory, in strictly ascending order. -/
structure Listing (entries : List (String × Entry)) (names : List String) : Prop where
  ascending : names.Pairwise (· < ·)
  members : ∀ name, name ∈ names ↔
    (∃ content, (name, .file content) ∈ entries) ∧ Path.hasScriptEnding name = true

theorem pairwise_scriptNames (names : List String) : (scriptNames names).Pairwise (· ≤ ·) :=
  List.pairwise_mergeSort' (· ≤ ·) _

theorem perm_scriptNames (names : List String) :
    (scriptNames names).Perm (names.filter Path.hasScriptEnding) :=
  List.mergeSort_perm _ _

/-- The order that files are listed in is not the order that they are read in. -/
theorem scriptNames_eq_of_perm (perm : names.Perm names') :
    scriptNames names = scriptNames names' := by
  have same : (scriptNames names).Perm (scriptNames names') :=
    (perm_scriptNames names).trans
      ((perm.filter _).trans (perm_scriptNames names').symm)
  exact List.Perm.eq_of_pairwise (fun _ _ _ _ => le_antisymm) (pairwise_scriptNames names)
    (pairwise_scriptNames names') same

theorem listing_scriptNames (distinct : (entries.map Prod.fst).Nodup) :
    Listing entries (scriptNames (FileTree.regular entries)) where
  ascending := by
    -- Sorting alone leaves room for equal names, but there are none.
    have once : (scriptNames (FileTree.regular entries)).Nodup := by
      rw [(perm_scriptNames _).nodup_iff]
      exact (distinct.sublist (FileTree.regular_sublist entries)).filter _
    exact (pairwise_scriptNames _).imp₂ (fun _ _ => lt_of_le_of_ne) once
  members name := by
    rw [(perm_scriptNames _).mem_iff, List.mem_filter, FileTree.mem_regular_iff]

theorem Listing.unique (listing : Listing entries names) (listing' : Listing entries names') :
    names = names' := by
  have once {names : List String} (listing : Listing entries names) : names.Nodup :=
    listing.ascending.imp fun below => ne_of_lt below
  have same : names.Perm names' := by
    rw [List.perm_ext_iff_of_nodup (once listing) (once listing')]
    exact fun name => (listing.members name).trans (listing'.members name).symm
  exact List.Perm.eq_of_pairwise (fun _ _ _ _ below above => absurd above (lt_asymm below))
    listing.ascending listing'.ascending same

/-! ## Reading one file after the other -/

theorem result_interpretFiles (files : FileTree) (paths : List Path) :
    (interpretFiles files paths).result =
      paths.mapM fun path => (interpretFile files path).result := by
  induction paths with
  | nil => rfl
  | cons path rest ih =>
    simp only [interpretFiles, Traced.result_bind, ih, Traced.result_pure, List.mapM_cons]
    rfl

theorem result_interpretDirectory (listed : files.list path = .ok entries) :
    (interpretDirectory files path).result = files.fileNames path >>= fun names =>
      (interpretFiles files ((scriptNames names).map path.child)).result := by
  have isThere := FileTree.exists?_of_isDirectory (FileTree.isDirectory_of_list listed)
  simp only [interpretDirectory, Traced.result_bind, Traced.result_ofExcept, isThere]
  change (Traced.ofExcept (files.fileNames path) >>= _).result = _
  simp only [Traced.result_bind, Traced.result_ofExcept, Traced.result_report]
  rfl

/-- What is interpreted under a name in a directory. -/
def Interprets (files : FileTree) (path : Path) (name : String) (script : Script) : Prop :=
  (interpretFile files (path.child name)).result = .ok script

section Listed

variable (listed : files.list path = .ok entries)

include listed

theorem interpretDirectory_of_tooLong
    (long : ∃ name ∈ entries.map Prod.fst, FileTree.isTooLong (path.child name) = true) :
    (interpretDirectory files path).result = .error .system := by
  rw [result_interpretDirectory listed, FileTree.fileNames_eq listed,
    if_pos (List.any_eq_true.mpr long)]
  rfl

variable (granted : ∀ name ∈ entries.map Prod.fst, FileTree.isTooLong (path.child name) = false)
  (once : (entries.map Prod.fst).Nodup) (listing : Listing entries names)

include granted once listing

theorem interpretDirectory_of_listing :
    (interpretDirectory files path).result =
      names.mapM fun name => (interpretFile files (path.child name)).result := by
  have looked : ¬ (entries.map Prod.fst).any fun name => FileTree.isTooLong (path.child name) := by
    simpa using granted
  rw [result_interpretDirectory listed, FileTree.fileNames_eq listed, if_neg looked,
    listing.unique (listing_scriptNames once)]
  exact (result_interpretFiles files _).trans List.mapM_map

theorem interpretDirectory_eq_ok_iff : (interpretDirectory files path).result = .ok scripts ↔
    List.Forall₂ (Interprets files path) names scripts := by
  rw [interpretDirectory_of_listing listed granted once listing]
  exact mapM_eq_ok_iff

theorem interpretDirectory_eq_error_iff :
    (interpretDirectory files path).result = .error failure ↔
      ∃ before name after scripts, names = before ++ name :: after ∧
        List.Forall₂ (Interprets files path) before scripts ∧
        (interpretFile files (path.child name)).result = .error failure := by
  rw [interpretDirectory_of_listing listed granted once listing]
  exact mapM_eq_error_iff

end Listed

/-! ## In whatever order a directory is listed -/

section Relisted

variable (same : files.Relisted files')

include same

theorem interpretFile_relisted (path : Path) :
    interpretFile files path = interpretFile files' path := by
  have loaded : loadFile files path = loadFile files' path := by
    rw [loadFile, loadFile, same.read_eq]
  rw [interpretFile, interpretFile, same.exists?_eq, same.isDirectory_eq, loaded]

theorem interpretFiles_relisted (paths : List Path) :
    interpretFiles files paths = interpretFiles files' paths := by
  induction paths with
  | nil => rfl
  | cons path rest ih => rw [interpretFiles, interpretFiles, interpretFile_relisted same, ih]

theorem interpretDirectory_relisted (distinct : files.Distinct) (path : Path) :
    interpretDirectory files path = interpretDirectory files' path := by
  have onward (names : List String) :
      interpretFiles files (names.map path.child) = interpretFiles files' (names.map path.child) :=
    interpretFiles_relisted same _
  -- Either neither listing can be had, or both have the same names, which are sorted anyway.
  rcases same.fileNames_relisted distinct path with ⟨failure, failed, failed'⟩ |
    ⟨names, names', listed, listed', perm⟩
  · rw [interpretDirectory, interpretDirectory, same.exists?_eq, failed, failed']
    simp only [onward]
  · have found (names : List String) (next : List String → Traced (List Script)) :
        (Traced.ofExcept (.ok names) >>= next) = next names := rfl
    rw [interpretDirectory, interpretDirectory, same.exists?_eq, listed, listed']
    simp only [found, onward, scriptNames_eq_of_perm perm]

end Relisted

end Script

end LootScript
