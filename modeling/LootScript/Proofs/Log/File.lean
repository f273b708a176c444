import LootScript.CommandLine.Run
import LootScript.Proofs.FileTree

/-!
# Log files

A file that something has been added to by its place is found there again, and more can be added. So
a log file that takes the first rows of a run takes all later ones.
-/
namespace LootScript

namespace FileTree

variable {files next : FileTree} {entry : Entry} {entries after : List (String × Entry)}
  {place : List String} {content : ByteArray}

/-! ## A changed entry -/

theorem lookup_setName (name : String) (entry : Entry) (entries : List (String × Entry)) :
    (setName name (some entry) entries).lookup name = some entry := by
  induction entries with
  | nil => simp [setName]
  | cons first rest ih =>
    rw [setName]
    split
    · simp
    · next other =>
      rw [List.lookup_cons, beq_eq_false_iff_ne.mpr (Ne.symm other)]
      exact ih

/-- Below a name that is not the last one, the entries of its directory change. -/
theorem setBelow_cons_eq_some_iff {change : Option Entry} {name name' : String}
    {rest : List String} :
    setBelow change (name :: name' :: rest) entries = some after ↔
      ∃ inner inner', entries.lookup name = some (.directory inner) ∧
        setBelow change (name' :: rest) inner = some inner' ∧
        after = setName name (some (.directory inner')) entries := by
  constructor
  · intro changed
    simp only [setBelow] at changed
    split at changed
    · next inner found =>
      obtain ⟨inner', below, same⟩ := Option.bind_eq_some_iff.mp changed
      cases same
      exact ⟨inner, inner', found, below, rfl⟩
    · cases changed
  · rintro ⟨inner, inner', found, below, rfl⟩
    simp [setBelow, found, below]

theorem descend_of_setBelow (changed : setBelow (some entry) place entries = some after) :
    descend (.directory after) place = some entry := by
  -- On the place: only the last name is written, all others are those of directories.
  induction place generalizing entries after with
  | nil => cases changed
  | cons name rest ih =>
    cases rest with
    | nil =>
      cases changed
      simp [descend, lookup_setName]
    | cons name' rest =>
      obtain ⟨inner, inner', -, below, rfl⟩ := setBelow_cons_eq_some_iff.mp changed
      rw [descend, lookup_setName]
      exact ih below

theorem not_refusesBelow_of_setBelow
    (changed : setBelow (some (.file content)) place entries = some after)
    (granted : ¬ RefusesBelow (.directory entries) place) :
    ¬ RefusesBelow (.directory after) place := by
  induction place generalizing entries after with
  | nil => cases changed
  | cons name rest ih =>
    intro refuses
    cases refuses with
    | here long => exact granted (.here long)
    | further found refused =>
      cases rest with
      | nil => cases refused
      | cons name' rest =>
        obtain ⟨inner, inner', found', below, rfl⟩ := setBelow_cons_eq_some_iff.mp changed
        rw [lookup_setName] at found
        cases found
        exact ih below (fun refuses => granted (.further found' refuses)) refused

theorem exists_setBelow_of_descend
    (found : descend (.directory entries) place = some (.file content)) (change : Option Entry) :
    ∃ after, setBelow change place entries = some after := by
  induction place generalizing entries with
  | nil => cases found
  | cons name rest ih =>
    rw [descend, Option.bind_eq_some_iff] at found
    obtain ⟨below, here, found⟩ := found
    cases rest with
    | nil => exact ⟨_, rfl⟩
    | cons name' rest =>
      cases below with
      | file content => cases found
      | directory inner =>
        obtain ⟨inner', changed⟩ := ih found
        exact ⟨_, setBelow_cons_eq_some_iff.mpr ⟨inner, inner', here, changed, rfl⟩⟩

/-! ## Adding to the end -/

theorem exists_place_of_resolve {path resolved : Path}
    (stands : files.resolve path = .ok resolved) :
    ∃ place, resolved = .ofPlace place ∧ ".." ∉ place := by
  unfold resolve at stands
  split at stands
  · obtain ⟨start, -, rfl⟩ := map_eq_ok_iff.mp stands
    exact ⟨_, rfl, fun climbs => (Path.mem_of_mem_collapse climbs).2 rfl⟩
  · cases stands

/-- A name that is missing from a directory gets its own place. -/
theorem eq_of_placeOf {place' : List String} (plain : ".." ∉ place)
    (nameable : (Path.ofPlace place).isNameable = true)
    (absent : files.locate (.ofPlace place) = .absent)
    (placed : files.placeOf (.ofPlace place) = .ok place') : place' = place := by
  have plain' : ".." ∉ place.dropLast := fun member => plain (List.dropLast_subset _ member)
  have nameable' : (Path.ofPlace place.dropLast).isNameable = true := by
    rw [Path.isNameable_iff] at nameable ⊢
    exact fun part member => nameable part (List.dropLast_subset _ member)
  have above : (Path.ofPlace place).parent = .ofPlace place.dropLast := rfl
  rw [placeOf, absent] at placed
  simp only [above] at placed
  split at placed
  · next found entries located =>
    split at placed
    · cases placed
    · next named =>
      cases placed
      have granted : ¬ files.Refuses place.dropLast := by
        intro refuses
        rw [locate_of_refuses plain' nameable' refuses] at located
        cases located
      rw [locate_ofPlace plain' nameable' granted] at located
      split at located
      · cases located
        rcases List.eq_nil_or_concat place with rfl | ⟨around, name, rfl⟩
        · exact absurd (.inl rfl) named
        · simp [Path.name, Path.ofPlace]
      · cases located
  · cases placed

/-- What could be added to is a file afterwards, in a tree that is otherwise the same. -/
theorem setAt_of_append (plain : ".." ∉ place)
    (added : files.append (.ofPlace place) content = .ok next) :
    (Path.ofPlace place).isNameable = true ∧ ¬ files.Refuses place ∧
      ∃ whole, files.setAt place (some (.file whole)) = .ok next := by
  unfold append at added
  have nameable : (Path.ofPlace place).isNameable = true := by
    by_contra unnameable
    have located : files.locate (.ofPlace place) = .unnameable := by
      rw [locate, if_pos (by simpa using unnameable)]
    rw [located] at added
    cases added
  have granted : ¬ files.Refuses place := by
    intro refuses
    rw [locate_of_refuses plain nameable refuses] at added
    cases added
  refine ⟨nameable, granted, ?_⟩
  rw [locate_ofPlace plain nameable granted] at added
  cases here : files.entryAt? place with
  | some entry =>
    rw [here] at added
    cases entry with
    | file old => exact ⟨_, added⟩
    | directory entries => cases added
  | none =>
    rw [here] at added
    obtain ⟨place', placed, written⟩ := bind_eq_ok_iff.mp added
    cases eq_of_placeOf plain nameable (by rw [locate_ofPlace plain nameable granted, here]) placed
    rw [here] at written
    exact ⟨content, written⟩

/-- The file is found at its place again, so that more can be added. -/
theorem exists_append_again (plain : ".." ∉ place)
    (added : files.append (.ofPlace place) content = .ok next) (more : ByteArray) :
    ∃ later, next.append (.ofPlace place) more = .ok later := by
  obtain ⟨nameable, granted, whole, changed⟩ := setAt_of_append plain added
  rw [setAt] at changed
  split at changed
  · next root below =>
    cases changed
    have here : entryAt? { files with root := root } place = some (.file whole) :=
      descend_of_setBelow below
    have granted' : ¬ Refuses { files with root := root } place := by
      rw [Refuses, not_or] at granted ⊢
      exact ⟨granted.1, not_refusesBelow_of_setBelow below granted.2⟩
    obtain ⟨root', below'⟩ := exists_setBelow_of_descend here (some (.file (whole ++ more)))
    refine ⟨{ files with root := root' }, ?_⟩
    simp only [append, locate_ofPlace plain nameable granted', here, setAt, below']
  · cases changed

end FileTree

namespace CommandLine

variable {files made logged : FileTree} {settings : SettingsStore} {arguments : Arguments}
  {logging : Logging} {ready : List Event} {now : Int}

/-- A log file stands at its place, without `..`. -/
theorem Logging.file_of_setUpLogging
    (setUp : setUpLogging files settings arguments = .ok (logging, made, ready)) :
    ∀ path, logging.file = some path → ∃ place, path = .ofPlace place ∧ ".." ∉ place := by
  intro path logs
  unfold setUpLogging at setUp
  dsimp only at setUp
  -- Which tree the log file has been made in does not matter here.
  generalize makeLogFile files (Path.ofText (settings.logFilePath profile)) = change at setUp
  -- With and without a console, the log file is set up in the same way.
  split at setUp
  all_goals
    obtain ⟨console, -, setUp⟩ := bind_eq_ok_iff.mp setUp
    split at setUp
    · split at setUp
      · obtain ⟨resolved, stands, setUp⟩ := bind_eq_ok_iff.mp setUp
        obtain ⟨absolute, -, setUp⟩ := bind_eq_ok_iff.mp setUp
        cases setUp
        cases logs
        exact FileTree.exists_place_of_resolve stands
      · cases setUp
        cases logs
      · cases setUp
    · cases setUp
      cases logs

/-- Once the first rows are kept, whatever comes later is kept. -/
theorem Logging.exists_keep_again
    (setUp : setUpLogging files settings arguments = .ok (logging, made, ready))
    (kept : logging.keep made now ready = .ok logged) (events : List Event) :
    ∃ later, logging.keep logged now events = .ok later := by
  unfold Logging.keep at kept ⊢
  cases logs : logging.file with
  | none => exact ⟨logged, rfl⟩
  | some path =>
    obtain ⟨place, rfl, plain⟩ := file_of_setUpLogging setUp path logs
    rw [logs] at kept
    exact FileTree.exists_append_again plain kept _

end CommandLine

end LootScript
