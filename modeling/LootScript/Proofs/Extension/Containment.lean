import LootScript.Extension.Directory
import LootScript.Proofs.FileTree
import Mathlib.Data.List.Basic

/-!
# Directories of base scripts contain what they give

A file that a directory gives for an identifier lies strictly below the directory, however the
identifier climbs or starts over, and it is the first choice among the script files at the place of
the identifier. Nothing is given when that place is not strictly below the directory. A name that
the system refuses to look up is neither found nor missed: the search fails.
-/
namespace LootScript

namespace ScriptDirectory

variable {files : FileTree} {root directory path : Path} {id : Identifier}
  {place : List String} {paths : List Path} {failure : Failure}

def StrictlyBelow (directory place : List String) : Prop :=
  ∃ rest, rest ≠ [] ∧ place = directory ++ rest

/-- The place with an ending added to its last name. -/
def withEnding (place : List String) (ending : String) : List String :=
  place.dropLast ++ [place.getLastD "" ++ ending]

theorem isBelow_iff {directory place : List String} :
    isBelow directory place = true ↔ StrictlyBelow directory place := by
  rw [isBelow, Bool.and_eq_true, List.isPrefixOf_iff_prefix, decide_eq_true_eq]
  constructor
  · rintro ⟨⟨rest, rfl⟩, longer⟩
    refine ⟨rest, ?_, rfl⟩
    rintro rfl
    simp at longer
  · rintro ⟨rest, more, rfl⟩
    refine ⟨List.prefix_append _ _, ?_⟩
    have positive := List.length_pos_iff.mpr more
    rw [List.length_append]
    omega

/-- The rename changes the last name alone, and that one lies below the directory too. -/
theorem StrictlyBelow.withEnding {directory : List String}
    (below : StrictlyBelow directory place) (ending : String) :
    StrictlyBelow directory (withEnding place ending) := by
  obtain ⟨rest, more, rfl⟩ := below
  -- There is a name below the directory, so the one that is renamed is not the directory's.
  refine ⟨rest.dropLast ++ [(directory ++ rest).getLastD "" ++ ending], by simp, ?_⟩
  rw [ScriptDirectory.withEnding, List.dropLast_append_of_ne_nil more, List.append_assoc]

theorem isScript_withEnding {ending : String} (known : ending ∈ Path.scriptEndings)
    (place : List String) : (Path.ofPlace (withEnding place ending)).isScript = true := by
  rw [Path.isScript, Path.name, Path.ofPlace, withEnding, List.getLastD_concat]
  exact Path.hasScriptEnding_append _ known

/-! ## The first file -/

theorem firstFile?_cons (files : FileTree) (path : Path) (rest : List Path) :
    firstFile? files (path :: rest) =
      match files.isFile path with
      | .ok true => .ok (some path)
      | .ok false => firstFile? files rest
      | .error failure => .error failure := by
  rw [firstFile?]
  cases files.isFile path with
  | error failure => rfl
  | ok found => cases found <;> rfl

theorem firstFile?_of_refused (refused : files.isFile path = .error failure) (rest : List Path) :
    firstFile? files (path :: rest) = .error failure := by
  rw [firstFile?_cons, refused]

theorem exists_split_of_firstFile? (found : firstFile? files paths = .ok (some path)) :
    ∃ earlier later, paths = earlier ++ path :: later ∧
      (∀ other ∈ earlier, files.isFile other = .ok false) ∧ files.isFile path = .ok true := by
  induction paths with
  | nil => cases found
  | cons first rest ih =>
    rw [firstFile?_cons] at found
    split at found
    · next here =>
      cases found
      exact ⟨[], rest, rfl, by simp, here⟩
    · next none =>
      obtain ⟨earlier, later, rfl, missing, here⟩ := ih found
      refine ⟨first :: earlier, later, rfl, ?_, here⟩
      intro other member
      rcases List.mem_cons.mp member with rfl | before
      · exact none
      · exact missing other before
    · cases found

theorem firstFile?_eq_none_iff :
    firstFile? files paths = .ok none ↔ ∀ path ∈ paths, files.isFile path = .ok false := by
  induction paths with
  | nil => simp [firstFile?]
  | cons first rest ih =>
    rw [firstFile?_cons, List.forall_mem_cons]
    split
    · next here => simp [here]
    · next none => rw [ih, none]; simp
    · next failure failed => simp [failed]

theorem exists_error_of_firstFile? (failed : firstFile? files paths = .error failure) :
    ∃ path ∈ paths, files.isFile path = .error failure := by
  induction paths with
  | nil => cases failed
  | cons first rest ih =>
    rw [firstFile?_cons] at failed
    split at failed
    · cases failed
    · obtain ⟨path, member, refused⟩ := ih failed
      exact ⟨path, List.mem_cons_of_mem _ member, refused⟩
    · next refused =>
      cases failed
      exact ⟨first, List.mem_cons_self, refused⟩

/-! ## The place of an identifier -/

theorem isNameable_written (named : directory.isNameable = true)
    (scope : '\x00' ∉ id.scope.toList) (name : '\x00' ∉ id.name.toList) :
    (written directory id).isNameable = true :=
  Path.isNameable_join (Path.isNameable_join named (Path.isNameable_ofText scope))
    (Path.isNameable_ofText name)

/-- The place is where the directory, the scope and the name lead together. -/
theorem resolve_place (resolved : files.resolve root = .ok directory)
    (scope : '\x00' ∉ id.scope.toList) (name : '\x00' ∉ id.name.toList) :
    files.resolve ((root.join (.ofText id.scope)).join (.ofText id.name)) =
      .ok (.ofPlace (base directory id)) := by
  have added : ((Path.ofText id.scope).join (.ofText id.name)).isNameable = true :=
    Path.isNameable_join (Path.isNameable_ofText scope) (Path.isNameable_ofText name)
  -- What is joined in two steps is joined at once, to the directory as it was resolved.
  rw [Path.join_assoc, FileTree.resolve_join resolved added, ← Path.join_assoc]
  rfl

theorem pathFor_eq (resolved : files.resolve root = .ok directory)
    (nameable : (written directory id).isNameable = true) :
    pathFor files root id =
      if contains directory id then firstFile? files (candidates (base directory id))
      else .ok none := by
  simp only [pathFor, resolved, nameable, Bool.not_true, Bool.false_eq_true, if_false]

theorem mem_candidates_iff :
    path ∈ candidates place ↔
      ∃ ending ∈ Path.scriptEndings, Path.ofPlace (withEnding place ending) = path :=
  List.mem_map

/-- A name with an ending is longer than `..`. -/
theorem plain_withEnding {ending : String} (known : ending ∈ Path.scriptEndings)
    (directory : Path) (id : Identifier) : ".." ∉ withEnding (base directory id) ending := by
  intro climbs
  -- The parts in front come from a collapsed path, and only the last one is new.
  rcases List.mem_append.mp climbs with before | last
  · exact (Path.mem_of_mem_collapse (List.dropLast_subset _ before)).2 rfl
  · have long : ∀ ending ∈ Path.scriptEndings, 2 < ending.length := by decide
    have longer := long ending known
    have same := congrArg String.length (List.mem_singleton.mp last)
    rw [String.length_append] at same
    have two : "..".length = 2 := by decide
    omega

theorem nameable_withEnding {ending : String} (known : ending ∈ Path.scriptEndings)
    (nameable : (written directory id).isNameable = true) :
    (Path.ofPlace (withEnding (base directory id) ending)).isNameable = true := by
  have parts : ∀ part ∈ base directory id, '\x00' ∉ part.toList := fun part member =>
    Path.isNameable_iff.mp nameable part (Path.mem_of_mem_collapse member).1
  rw [Path.isNameable_iff]
  intro part member
  rcases List.mem_append.mp member with before | last
  · exact parts part (List.dropLast_subset _ before)
  · rw [List.mem_singleton.mp last, String.toList_append, List.mem_append, not_or]
    constructor
    · cases shape : (base directory id).getLast? with
      | none => simp [List.getLastD_eq_getLast?, shape]
      | some final =>
        rw [List.getLastD_eq_getLast?, shape]
        exact parts final (List.mem_of_getLast? shape)
    · have plain : ∀ ending ∈ Path.scriptEndings, '\x00' ∉ ending.toList := by decide
      exact plain ending known

/-! ## Containment -/

section Contained

variable (resolved : files.resolve root = .ok directory)
  (nameable : (written directory id).isNameable = true)

include resolved nameable

theorem contained_of_pathFor (found : pathFor files root id = .ok (some path)) :
    ∃ earlier ending later, Path.scriptEndings = earlier ++ ending :: later ∧
      path = .ofPlace (withEnding (base directory id) ending) ∧
      files.HasFile path.parts ∧ StrictlyBelow directory.parts path.parts ∧
      path.isScript = true ∧
      ∀ other ∈ earlier, ¬ files.HasFile (withEnding (base directory id) other) := by
  rw [pathFor_eq resolved nameable] at found
  split at found
  · next below =>
    obtain ⟨earlier, later, split, missing, here⟩ := exists_split_of_firstFile? found
    -- A split of the candidates is one of the endings that they are made with.
    obtain ⟨first, rest, endings, rfl, more⟩ := List.map_eq_append_iff.mp split
    obtain ⟨ending, last, rfl, rfl, rfl⟩ := List.map_eq_cons_iff.mp more
    have known : ending ∈ Path.scriptEndings := by
      rw [endings]
      exact List.mem_append_right _ List.mem_cons_self
    refine ⟨first, ending, last, endings, rfl, ?_, ?_, isScript_withEnding known _, ?_⟩
    · exact (FileTree.hasFile_iff_of_isFile (plain_withEnding known _ _)
        (nameable_withEnding known nameable) here).mp rfl
    · exact (isBelow_iff.mp below).withEnding ending
    · intro other member file
      have known' : other ∈ Path.scriptEndings := by
        rw [endings]
        exact List.mem_append_left _ member
      have answered := missing _ (List.mem_map_of_mem member)
      have truth := FileTree.hasFile_iff_of_isFile (plain_withEnding known' _ _)
        (nameable_withEnding known' nameable) answered
      exact Bool.false_ne_true (truth.mpr file)
  · cases found

theorem pathFor_eq_none_iff :
    pathFor files root id = .ok none ↔ ¬ StrictlyBelow directory.parts (base directory id) ∨
      ∀ ending ∈ Path.scriptEndings, ¬ files.HasFile (withEnding (base directory id) ending) ∧
        ¬ files.Refuses (withEnding (base directory id) ending) := by
  rw [pathFor_eq resolved nameable, ← isBelow_iff]
  cases below : contains directory id with
  | false =>
    -- Nothing is looked up.
    have outside : isBelow directory.parts (base directory id) = false := below
    simp [outside]
  | true =>
    have inside : isBelow directory.parts (base directory id) = true := below
    simp only [if_true, inside, not_true, false_or, firstFile?_eq_none_iff, mem_candidates_iff,
      forall_exists_index, and_imp, forall_apply_eq_imp_iff₂]
    -- For each ending: it is passed over exactly if there is no file and the system says so.
    apply forall₂_congr
    intro ending known
    have plain := plain_withEnding known directory id
    have named := nameable_withEnding known nameable
    constructor
    · intro missing
      constructor
      · intro file
        exact Bool.false_ne_true ((FileTree.hasFile_iff_of_isFile plain named missing).mpr file)
      · intro refuses
        rw [FileTree.isFile_of_refuses plain named refuses] at missing
        cases missing
    · rintro ⟨missing, granted⟩
      obtain ⟨answer, answered, truth⟩ := FileTree.isFile_ofPlace plain named granted
      rw [answered]
      cases answer with
      | false => rfl
      | true => exact absurd (truth.mp rfl) missing

theorem refused_of_pathFor (failed : pathFor files root id = .error failure) :
    failure = .system ∧ StrictlyBelow directory.parts (base directory id) ∧
      ∃ ending ∈ Path.scriptEndings, files.Refuses (withEnding (base directory id) ending) := by
  rw [pathFor_eq resolved nameable] at failed
  split at failed
  · next below =>
    obtain ⟨path, candidate, refused⟩ := exists_error_of_firstFile? failed
    obtain ⟨ending, known, rfl⟩ := mem_candidates_iff.mp candidate
    refine ⟨FileTree.eq_system_of_isFile refused, isBelow_iff.mp below, ending, known, ?_⟩
    exact FileTree.refuses_of_isFile (plain_withEnding known _ _)
      (nameable_withEnding known nameable) refused
  · cases failed

end Contained

/--
The place of an identifier is where the directory, its scope and its name lead. A file that is given
lies strictly below the directory, is a script file, and has the first ending for which there is
a file at the place; nothing is given exactly if the place is not strictly below the directory or
there is no such file and that can be seen. Otherwise the system has refused to look at a candidate.
-/
theorem pathFor_contained (start : files.StartsNameable)
    (resolved : files.resolve root = .ok directory) (scope : '\x00' ∉ id.scope.toList)
    (name : '\x00' ∉ id.name.toList) :
    ∃ place,
      files.resolve ((root.join (.ofText id.scope)).join (.ofText id.name)) =
        .ok (.ofPlace place) ∧
      (∀ path, pathFor files root id = .ok (some path) →
        ∃ earlier ending later, Path.scriptEndings = earlier ++ ending :: later ∧
          path = .ofPlace (withEnding place ending) ∧
          files.HasFile path.parts ∧ StrictlyBelow directory.parts path.parts ∧
          path.isScript = true ∧ ∀ other ∈ earlier, ¬ files.HasFile (withEnding place other)) ∧
      (pathFor files root id = .ok none ↔ ¬ StrictlyBelow directory.parts place ∨
        ∀ ending ∈ Path.scriptEndings, ¬ files.HasFile (withEnding place ending) ∧
          ¬ files.Refuses (withEnding place ending)) ∧
      (∀ failure, pathFor files root id = .error failure →
        failure = .system ∧ StrictlyBelow directory.parts place ∧
          ∃ ending ∈ Path.scriptEndings, files.Refuses (withEnding place ending)) := by
  have named := FileTree.isNameable_of_resolve start resolved
  have nameable := isNameable_written named scope name
  refine ⟨base directory id, resolve_place resolved scope name, ?_, ?_, ?_⟩
  · intro path found
    exact contained_of_pathFor resolved nameable found
  · exact pathFor_eq_none_iff resolved nameable
  · intro failure failed
    exact refused_of_pathFor resolved nameable failed

/-- Two script files at one place, and a directory that identifiers have no business in. -/
def nested : FileTree where
  root := [
    ("base", .directory [("minecraft", .directory [
      ("a.json.merge", .file .empty), ("a.megu", .file .empty)])]),
    ("etc", .directory [("a.ult", .file .empty)])]
  workingDirectory := .present []

/-- An identifier that starts over elsewhere and climbs back in. -/
theorem pathFor_contained_climbing :
    let id : Identifier := ⟨"/etc", "../base/minecraft/a"⟩
    nested.StartsNameable ∧ nested.resolve (.ofText "base") = .ok (.ofPlace ["base"]) ∧
      '\x00' ∉ id.scope.toList ∧ '\x00' ∉ id.name.toList ∧
      ∃ path, pathFor nested (.ofText "base") id = .ok (some path) ∧
        nested.HasFile path.parts ∧ StrictlyBelow ["base"] path.parts ∧ path.isScript = true := by
  intro id
  have start : nested.StartsNameable := by
    rintro place here
    cases here
    rfl
  have resolved : nested.resolve (.ofText "base") = .ok (.ofPlace ["base"]) := by decide
  have scope : '\x00' ∉ id.scope.toList := by decide
  have name : '\x00' ∉ id.name.toList := by decide
  have found : pathFor nested (.ofText "base") id =
      .ok (some (.ofPlace ["base", "minecraft", "a.megu"])) := by decide +kernel
  obtain ⟨place, -, given, -, -⟩ := pathFor_contained start resolved scope name
  obtain ⟨earlier, ending, later, -, -, file, below, script, -⟩ := given _ found
  exact ⟨start, resolved, scope, name, _, found, file, below, script⟩

/-! ## A name that is too long -/

/-- A directory for a scope with no files in it. -/
def bare : FileTree := ⟨[("minecraft", .directory [])], .present []⟩

section Overlong

variable {name : String} (overlong : FileTree.Overlong name)

include overlong

theorem base_overlong : base (.ofPlace []) ⟨"minecraft", name⟩ = ["minecraft", name] := by
  have scope : Path.ofText "minecraft" = ⟨.relative, ["minecraft"]⟩ := by decide
  have climbs := overlong.ne_of_short ".." (by decide)
  have plain : ".." ∉ ["minecraft", name] := by
    simp [Ne.symm climbs]
  rw [base, written, scope, overlong.ofText_eq]
  exact Path.collapse_of_not_mem plain

variable {files : FileTree} {entries : List (String × Entry)}
  (reached : files.root.lookup "minecraft" = some (.directory entries))

include reached

theorem refuses_overlong (ending : String) :
    files.Refuses (withEnding ["minecraft", name] ending) := by
  have long : FileTree.maxNameBytes < (name ++ ending).utf8ByteSize := by
    have size := overlong.long
    rw [String.utf8ByteSize_append]
    omega
  exact .inr (.further reached (.here long))

/-- The system is asked for a name that is too long for it to say that there is none. -/
theorem pathFor_overlong :
    pathFor files (.ofPlace []) ⟨"minecraft", name⟩ = .error .system := by
  have resolved : files.resolve (.ofPlace []) = .ok (.ofPlace []) := rfl
  have scope : '\x00' ∉ "minecraft".toList := by decide
  have nameable : (written (.ofPlace []) ⟨"minecraft", name⟩).isNameable = true :=
    isNameable_written rfl scope (overlong.not_mem (by decide))
  have below : contains (.ofPlace []) ⟨"minecraft", name⟩ = true := by
    rw [contains, base_overlong overlong]
    rfl
  have refused := FileTree.isFile_of_refuses (plain_withEnding (by decide) _ _)
    (nameable_withEnding (by decide) nameable)
    (base_overlong overlong ▸ refuses_overlong overlong reached ".ult")
  rw [pathFor_eq resolved nameable, if_pos below]
  exact firstFile?_of_refused refused _

end Overlong

/-- Nothing is at the place, in a tree without links, and yet that is not the answer. -/
theorem pathFor_passes_refusal :
    let id : Identifier := ⟨"minecraft", String.ofList (List.replicate 256 'n')⟩
    bare.resolve (.ofPlace []) = .ok (.ofPlace []) ∧
      (∀ ending ∈ Path.scriptEndings, ¬ bare.HasFile (withEnding (base (.ofPlace []) id) ending)) ∧
      pathFor bare (.ofPlace []) id = .error .system := by
  have overlong := FileTree.overlong_replicate
  generalize String.ofList (List.replicate 256 'n') = name at overlong
  refine ⟨rfl, ?_, pathFor_overlong overlong rfl⟩
  rintro ending - ⟨content, found⟩
  rw [base_overlong overlong] at found
  cases found

end ScriptDirectory

end LootScript
