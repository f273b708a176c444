import LootScript.Proofs.CommandLine.Reported
import LootScript.Proofs.Wording.Reading

/-!
# What reported failures say

Whoever asks for a script, for a table or for a check of a pack is told what is wrong in one text.
The text names the file that was asked for, or the value that is wrong, and it is a single line
exactly if everything that it names is. What it names was asked for, or is a text in a script or a
place between such texts, and nothing keeps line breaks out of those.
-/
namespace LootScript

open Text (SingleLine Shows)

variable {alphabet : Alphabet} {files : FileTree} {store : Store} {path : Path} {failure : Failure}

/-! ## Reading a file -/

theorem Failure.Reason.of_isRefusal (refusal : failure.isRefusal = true) :
    Failure.Reason alphabet failure := by
  cases failure with
  | system => exact .system
  | nullCharacter => exact .nullCharacter
  | _ => cases refusal

namespace Script

theorem read_of_ofContent {content : ByteArray}
    (spelled : ∀ value, Json.decode? content = some value → value.Spelled alphabet)
    (failed : ofContent path content = .error failure) :
    ∃ fault cause, failure = .read fault path cause ∧
      (Failure.Reason alphabet cause ∨ Failure.OfScript alphabet cause) := by
  rcases ofContent_failures failed with rfl | ⟨value, decoded, inside⟩
  · exact ⟨_, _, rfl, .inl .notJson⟩
  · have formed := ScriptShape.ends_ofJson (spelled value decoded)
    rcases inside with ⟨cause, misshapen, rfl⟩ | ⟨shape, cause, read, judged, rfl⟩
    · rw [misshapen] at formed
      exact ⟨_, _, rfl, .inl formed⟩
    · rw [read] at formed
      have told := ends_ofShape formed
      rw [judged] at told
      exact ⟨_, _, rfl, .inr told⟩

theorem read_of_loadFile (nameable : path.isNameable = true)
    (spelled : ∀ value ∈ files.contents.filterMap Json.decode?, value.Spelled alphabet)
    (failed : (loadFile files path).result = .error failure) :
    ∃ fault cause, failure = .read fault path cause ∧
      (Failure.Reason alphabet cause ∨ Failure.OfScript alphabet cause) := by
  rcases loadFile_failures nameable failed with rfl | ⟨content, stored, misread⟩
  · exact ⟨_, _, rfl, .inl .system⟩
  · refine read_of_ofContent (fun value decoded => spelled value ?_) misread
    exact List.mem_filterMap.mpr ⟨content, FileTree.mem_contents_of_read stored, decoded⟩

theorem told_of_interpretFile (named : alphabet.Spells path.text)
    (spelled : ∀ value ∈ files.contents.filterMap Json.decode?, value.Spelled alphabet)
    (failed : (interpretFile files path).result = .error failure)
    (reported : CommandLine.isReported failure = true) :
    Failure.Told alphabet failure ∧ path.text ∈ failure.subjects := by
  rcases interpretFile_failures failed with ⟨rfl, -⟩ | rfl | rfl | ⟨cause, rfl, nameable, loaded⟩
  · cases reported
  · exact ⟨.missing named, List.mem_cons_self⟩
  · exact ⟨.notAFile named, List.mem_cons_self⟩
  · obtain ⟨fault, inner, rfl, inside⟩ := read_of_loadFile nameable spelled loaded
    exact ⟨.unreadableScript named inside, List.mem_cons_self⟩

/-! ## Compiling and combining -/

variable {script : Script} {scripts : List Script}

/-- What is wrong with a base script shows its texts; the reference itself is always plain. -/
theorem ofScript_of_compile
    (spelled : ∀ definition ∈ store.definitions files, definition.Spelled alphabet)
    (failed : script.compile (store.source files) = .error failure)
    (fault : failure.isScriptFault = true) : Failure.OfScript alphabet failure := by
  have plain (reference : Reference) : alphabet.Spells reference.raw :=
    Identifier.spells_of_parse reference.parsed
  -- It compiles, or it comes back to some reference, or some reference is not resolved.
  rcases compile_cases (store.source files) script with
    ⟨-, result, compiled⟩ | ⟨reference, -, compiled⟩ |
      ⟨reference, cause, ⟨-, -, -, -, refused⟩, compiled⟩
  · rw [compiled] at failed
    cases failed
  · rw [compiled] at failed
    cases failed
    exact .value rfl (plain reference)
  · rw [compiled] at failed
    cases failed
    rw [Source.resolveText_raw, Source.resolve] at refused
    split at refused
    · next looked =>
      cases refused
      rcases Store.pathFor_of_lookup store looked with ⟨cause, rfl, kind⟩ | ⟨root, -, searched⟩
      · have formed := Identifier.wellFormed_of_parse reference.parsed
        refine .unreadable (Identifier.spells_text formed) ?_
        rcases kind with rfl | refusal
        · exact .notJson
        · exact .of_isRefusal refusal
      · -- A search that fails is no fault of a script.
        rw [Failure.isScriptFault_of_isRefusal (ScriptDirectory.isRefusal_of_pathFor searched)]
          at fault
        cases fault
    · cases refused
      exact .value rfl (plain reference)
    · next definition found =>
      have inside := ScriptShape.ends_ofJson
        (spelled definition (List.mem_append.mpr (Store.mem_of_lookup store found)))
      split at refused
      · next misshapen =>
        cases refused
        rw [misshapen] at inside
        exact .unreadable (plain reference) inside
      · next shape read =>
        rw [read] at inside
        have judged := ends_ofShape inside
        rw [refused] at judged
        exact judged

/-- Of what does not compile, nothing but the fault of a script is reported. -/
theorem isScriptFault_of_isReported
    (failed : script.compile (store.source files) = .error failure)
    (reported : CommandLine.isReported failure = true) : failure.isScriptFault = true := by
  have failed : (Job.compile script).outcome (store.source files) = .error failure := failed
  rcases Job.isFault_or_unsearched failed with fault | ⟨refusal, -⟩
  · exact fault
  · cases failure with
    | system | nullCharacter => cases reported
    | _ => cases refusal

theorem told_of_assemble
    (spelled : ∀ definition ∈ store.definitions files, definition.Spelled alphabet)
    (failed : (assemble files store scripts).result = .error failure)
    (reported : CommandLine.isReported failure = true) : Failure.Told alphabet failure := by
  rw [result_assemble] at failed
  obtain ⟨index, cause, ⟨⟨script, -, uncompiled⟩, -⟩, rfl⟩ := combine_eq_error_iff.mp failed
  cases fault : cause.isScriptFault with
  | true =>
    rw [atPosition, if_pos fault]
    exact .combination (ofScript_of_compile spelled uncompiled fault)
  | false =>
    -- What is not numbered is no fault of a script, and so it is not reported.
    rw [atPosition, if_neg (by simp [fault])] at reported
    rw [isScriptFault_of_isReported uncompiled reported] at fault
    cases fault

end Script

/-! ## Checking a pack -/

namespace Pack

theorem told_of_unusable {named : String} {description : Json} (spelled : alphabet.Spells named)
    (unusable : Unusable named description failure) :
    Failure.Told alphabet failure ∧ named ∈ failure.subjects := by
  have form {cause : Failure} (reason : Failure.Reason alphabet cause) :
      Failure.Told alphabet (.packForm named cause) ∧
        named ∈ (Failure.packForm named cause).subjects :=
    ⟨.packForm spelled reason, List.mem_cons_self⟩
  cases unusable with
  | noObject | without => exact ⟨.packWithoutOptions spelled, List.mem_cons_self⟩
  | unlisted => exact form (.shape (Alphabet.spells_of_all (by decide)) (by decide))
  | @nameless _ before =>
    have place : alphabet.Spells ("compiler_options[" ++ toString before.length ++ "]") :=
      ((Alphabet.spells_of_all (by decide)).append (Alphabet.spells_toString _)).words (by decide)
    exact form (.shape place (by decide))

theorem told_of_check (named : alphabet.Spells path.text)
    (failed : check files path = .error failure)
    (reported : CommandLine.isReported failure = true) :
    Failure.Told alphabet failure ∧ path.text ∈ failure.subjects := by
  rcases check_eq_error_iff.mp failed with rejected | ⟨-, rfl⟩
  · cases rejected with
    | missing => exact ⟨.packMissing named, List.mem_cons_self⟩
    | directory => exact ⟨.packIsDirectory named, List.mem_cons_self⟩
    | notJson => exact ⟨.packForm named .notJson, List.mem_cons_self⟩
    | unusable _ unusable => exact told_of_unusable named unusable
  · cases reported

end Pack

/-! ## Lines of the log -/

namespace Log

theorem spells_replicate {c : Char} (plain : Text.isPlain c = true) (n : Nat) :
    alphabet.Spells (String.ofList (List.replicate n c)) := by
  refine Alphabet.spells_of_plain fun c' member => ?_
  rw [String.toList_ofList] at member
  rw [List.eq_of_mem_replicate member, plain]

theorem spells_pad (width n : Nat) : alphabet.Spells (pad width n) :=
  (spells_replicate (by decide) _).append (Alphabet.spells_toString n)

theorem spells_clockText (seconds : Int) : alphabet.Spells (clockText seconds) :=
  ((((spells_pad _ _).words (by decide)).append (spells_pad _ _)).words (by decide)).append
    (spells_pad _ _)

theorem spells_fill {text : String} (spelled : alphabet.Spells text) :
    alphabet.Spells (fill text) :=
  spelled.append (spells_replicate (by decide) _)

theorem singleLine_levelText (colors : Bool) :
    SingleLine (levelText colors (.whole Level.error)) := by
  cases colors <;> decide

end Log

/-- The record of a run that failed, with what the JSON reader and the system have to say. -/
def Failure.record (json os : String) (failure : Failure) (created : Int) : Log.Record :=
  { (Event.runFailed failure).record created with message := failure.wording json os }

/-- The time and the level are on the line of the message. -/
theorem Failure.shows_consoleLine (json os : String) (failure : Failure) (created : Int)
    (colors : Bool) :
    Shows [failure.wording json os] ((failure.record json os created).consoleLine colors) := by
  have time : Shows [] (Log.clockText created) := Text.shows_nil (Log.spells_clockText created)
  have level : Shows [] (Log.fill (Log.levelText colors (.whole Log.Level.error))) :=
    Text.shows_nil (Log.spells_fill (Log.singleLine_levelText colors))
  have separator : Shows [] " : " := Text.shows_words (by decide)
  exact (time.append separator).append ((level.append separator).append (Text.shows_self _))

/-! ## Operations -/

/-- What the program can be asked to do. -/
inductive Operation
  | interpretFile (path : Path)
  | compileFile (path : Path)
  | combine (scripts : List Script)
  | checkPack (path : Path)

namespace Operation

variable {operation : Operation}

def Fails (files : FileTree) (store : Store) (failure : Failure) : Operation → Prop
  | interpretFile path => (Script.interpretFile files path).result = .error failure
  | compileFile path => (Script.compileFile files store path).result = .error failure
  | combine scripts => (Script.assemble files store scripts).result = .error failure
  | checkPack path => Pack.check files path = .error failure

instance : (operation : Operation) → Decidable (operation.Fails files store failure)
  | interpretFile _ | compileFile _ | combine _ | checkPack _ => inferInstanceAs (Decidable (_ = _))

def path? : Operation → Option Path
  | interpretFile path | compileFile path | checkPack path => some path
  | combine _ => none

/-- What may be read and judged on the way; nothing of a pack is shown but places in it. -/
def definitions (files : FileTree) (store : Store) : Operation → List Json
  | interpretFile _ => files.contents.filterMap Json.decode?
  | compileFile _ | combine _ => store.definitions files
  | checkPack _ => []

theorem told (failed : operation.Fails files store failure)
    (reported : CommandLine.isReported failure = true)
    (named : ∀ path ∈ operation.path?, alphabet.Spells path.text)
    (spelled : ∀ definition ∈ operation.definitions files store, definition.Spelled alphabet) :
    Failure.Told alphabet failure ∧
      ∀ path ∈ operation.path?, failure.isScriptFault = true ∨ path.text ∈ failure.subjects := by
  have about {path : Path} (inside : path.text ∈ failure.subjects) :
      ∀ path' ∈ some path, failure.isScriptFault = true ∨ path'.text ∈ failure.subjects := by
    rintro _ ⟨⟩
    exact .inr inside
  cases operation with
  | interpretFile path =>
    exact (Script.told_of_interpretFile (named path rfl) spelled failed reported).imp_right about
  | compileFile path =>
    rw [Fails, Script.result_compileFile, bind_eq_error_iff] at failed
    rcases failed with unread | ⟨script, -, uncompiled⟩
    · have spelledFiles : ∀ value ∈ files.contents.filterMap Json.decode?,
          value.Spelled alphabet := fun value member =>
        spelled value (List.mem_append_right _ member)
      exact (Script.told_of_interpretFile (named path rfl) spelledFiles unread reported).imp_right
        about
    · -- The removals come after compiling and never fail.
      rw [map_eq_error_iff] at uncompiled
      have fault := Script.isScriptFault_of_isReported uncompiled reported
      exact ⟨.script (Script.ofScript_of_compile spelled uncompiled fault), fun _ _ => .inl fault⟩
  | combine scripts =>
    exact ⟨Script.told_of_assemble spelled failed reported, by simp [path?]⟩
  | checkPack path => exact (Pack.told_of_check (named path rfl) failed reported).imp_right about

/--
The message of a failure that is reported names everything that the failure is about, which is never
nothing, and the path that was asked for unless a script that could be read has a fault. It breaks a
line only where that does. So if neither the path nor any text of the scripts at hand breaks a line,
then the message is a single line, and so is the line of the log that shows it.
-/
theorem wording_of_fails {json os : String} (failed : operation.Fails files store failure)
    (reported : CommandLine.isReported failure = true) (oneJson : SingleLine json)
    (oneOs : SingleLine os) :
    failure.subjects ≠ [] ∧ Shows failure.subjects (failure.wording json os) ∧
    (∀ path ∈ operation.path?, failure.isScriptFault = true ∨ path.text ∈ failure.subjects) ∧
    ((∀ path ∈ operation.path?, SingleLine path.text) →
      (∀ definition ∈ operation.definitions files store, definition.Spelled .unbroken) →
      SingleLine (failure.wording json os)) ∧
    ∀ created colors, SingleLine ((failure.record json os created).consoleLine colors) ↔
      SingleLine (failure.wording json os) := by
  -- The form of the failure does not depend on the texts, which may have any characters.
  obtain ⟨told, about⟩ := operation.told failed reported (fun _ _ => Alphabet.spells_all _)
    (fun definition _ => definition.spelled_all)
  have shows' := told.shows_wording oneJson oneOs
  refine ⟨told.subjects_ne_nil, shows', about, fun named single => ?_, fun created colors => ?_⟩
  · exact shows'.line.mpr (operation.told failed reported named single).1.spells
  · simpa using (failure.shows_consoleLine json os created colors).line

/-! ### Pools under names that are no identifiers -/

/-- A script file with an empty pool, under a key that stands as it does in JSON. -/
def poolFile (key : String) : FileTree where
  root := [("a.megu", .file ("\x7b\"pools\": \x7b\"" ++ key ++
    "\": \x7b\"type\": \"empty\"\x7d\x7d\x7d").toUTF8)]
  workingDirectory := .present []

/-- The key of a pool is not allowed in an identifier. -/
def wrongKey (key : String) : Failure :=
  .unreadableScript (.ofText "a.megu") (.read .content (.ofText "a.megu")
    (.script .identifierCharacters (.str key)))

theorem wording_of_fails_of_capital :
    let operation : Operation := .interpretFile (.ofText "a.megu")
    operation.Fails (poolFile "A") (.registry .empty) (wrongKey "A") ∧
      CommandLine.isReported (wrongKey "A") = true ∧ SingleLine "unexpected end" ∧
      SingleLine "Permission denied" ∧
      Text.Occurs "A" ((wrongKey "A").wording "unexpected end" "Permission denied") ∧
      SingleLine ((wrongKey "A").wording "unexpected end" "Permission denied") := by
  intro operation
  have failed : operation.Fails (poolFile "A") (.registry .empty) (wrongKey "A") := by
    decide +kernel
  have oneJson : SingleLine "unexpected end" := by decide
  have oneOs : SingleLine "Permission denied" := by decide
  obtain ⟨-, shows', -, single, -⟩ := wording_of_fails failed rfl oneJson oneOs
  refine ⟨failed, rfl, oneJson, oneOs, shows'.occurs "A" (by decide), single ?_ ?_⟩
  · rintro _ ⟨⟩
    decide
  · have read : operation.definitions (poolFile "A") (.registry .empty) =
        [.obj [("pools", .obj [("A", .obj [("type", .str "empty")])])]] := by decide +kernel
    rw [read, List.forall_mem_singleton]
    simp only [Json.Spelled, Json.SpelledFields, and_true]
    refine ⟨?_, ?_, ?_, ?_⟩ <;> exact Alphabet.spells_of_all (by decide)

/-- A line break in the key of a pool is shown as it is. -/
theorem interpretFile_shows_break :
    Operation.Fails (poolFile "a\\nb") (.registry .empty) (wrongKey "a\nb")
        (.interpretFile (.ofText "a.megu")) ∧
      CommandLine.isReported (wrongKey "a\nb") = true ∧ SingleLine (Path.ofText "a.megu").text ∧
      ∀ json os, ¬ SingleLine ((wrongKey "a\nb").wording json os) := by
  refine ⟨by decide +kernel, rfl, by decide, fun json os => ?_⟩
  have words : (wrongKey "a\nb").wording json os = (wrongKey "a\nb").message := rfl
  rw [words]
  decide

end Operation

end LootScript
