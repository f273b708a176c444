import LootScript.CommandLine.Arguments
import LootScript.Extension.Builtin
import LootScript.FileTree.Change
import LootScript.Json.Printer
import LootScript.Log.Line
import LootScript.Log.Row
import LootScript.Pack
import LootScript.Script.Assembly
import LootScript.Settings.Check

/-!
# A run of the command line

A run reads the settings, sets up logging, checks the pack description if it is told to, interprets
the scripts in the order in which they are named, and prints the table that they combine to. It
prints nothing unless everything succeeds; the first failure is logged and ends the run with code 1.
-/
namespace LootScript

namespace CommandLine

def profile : String := "default"

/-- Where base scripts are looked for: in a directory first, if there is one. -/
def chooseStore (files : FileTree) (extensions : Option Path) : Traced Store := do
  .report (.registryReady Builtin.registry.size)
  match extensions with
  | none => return .registry Builtin.registry
  | some path =>
    if ← .ofExcept (files.isDirectory path) then
      return .chain [.directory path, .registry Builtin.registry]
    else
      .report (.extensionsMissing path)
      return .registry Builtin.registry

/-- The scripts of a directory, or the one script of a file. -/
def scriptsAt (files : FileTree) (path : Path) : Traced (List Script) := do
  if ← .ofExcept (files.isDirectory path) then Script.interpretDirectory files path
  else
    let script ← Script.interpretFile files path
    return [script]

/-- The scripts of files and directories, in the order in which these are named. -/
def collect (files : FileTree) : List Path → Traced (List Script)
  | [] => return []
  | path :: rest => do
    let scripts ← scriptsAt files path
    return scripts ++ (← collect files rest)

/-- The table that the arguments ask for. -/
def produce (files : FileTree) (settings : SettingsStore) (arguments : Arguments) :
    Traced Script := do
  match arguments.packMeta with
  | some path => .ofExcept (Pack.check files path)
  | none => pure ()
  let store ← chooseStore files (arguments.extensions <|> settings.extensionsPath profile)
  .report .loaderReady
  let paths := match arguments.paths with
    | [] => [settings.scriptsPath profile]
    | paths => paths
  Script.assemble files store (← collect files paths)

/-! ## Logging -/

/-- Names, in capitals, of the ways records are written. None of them is a level. -/
def formatNames : List String := ["BASIC_FORMAT", "_STYLES"]

/-- The level from which on the console shows records; names that are not known mean `INFO`. -/
def threshold (name : String) : Except Failure Int :=
  let name := SettingsStore.capitals name
  if name ∈ formatNames then .error (.notALevel name)
  else .ok (([("CRITICAL", 50), ("FATAL", 50), ("ERROR", 40), ("WARN", 30), ("WARNING", 30),
    ("INFO", 20), ("DEBUG", 10), ("NOTSET", 0)].lookup name).getD Log.Level.info)

/-- Where records go: to the console from a level on, in color or not, and to the end of a file. -/
structure Logging where
  console : Option (Int × Bool)
  file : Option Path

/-- A line on the diagnostic output. -/
inductive Diagnostic
  | usage
  | plain (text : String)
  | logged (record : Log.Record) (colors : Bool)

namespace Logging

/-- With no place to go to, warnings and anything worse appear as bare messages. -/
def diagnostic? (logging : Logging) (now : Int) (event : Event) : Option Diagnostic :=
  match logging.console with
  | some (least, colors) =>
    if least ≤ event.level then some (.logged (event.record now) colors) else none
  | none =>
    if logging.file.isNone ∧ Log.Level.warning ≤ event.level then some (.plain event.message)
    else none

def rows (now : Int) (events : List Event) : ByteArray :=
  (String.join (events.map fun event => (event.record now).row ++ "\n")).toUTF8

/-- Adds events to the log file, if there is one. -/
def keep (logging : Logging) (files : FileTree) (now : Int) (events : List Event) :
    Except Failure FileTree :=
  match logging.file with
  | none => .ok files
  | some path => files.append path (rows now events)

end Logging

/-- The name of the level for the console: the one asked for, else the one in the settings. -/
def levelName (settings : SettingsStore) (arguments : Arguments) : String :=
  match arguments.logLevel with
  | some level => if level.isEmpty then settings.consoleLevel profile else level
  | none => settings.consoleLevel profile

/-- Makes the log file, in directories that stay even if the file cannot be made in them. -/
def makeLogFile (files : FileTree) (path : Path) : FileTree.Changed :=
  (files.makeDirectory path.parent).andThen fun files => do
    files.append (← files.resolve path) .empty

/--
Sets logging up: the places that records go to, the files after the log file has been made, and
what there is to report. A log file that the system refuses to make is done without.
-/
def setUpLogging (files : FileTree) (settings : SettingsStore) (arguments : Arguments) :
    Except Failure (Logging × FileTree × List Event) := do
  let level := levelName settings arguments
  let colors := settings.flag profile .consoleColors
  let shown := settings.flag profile .consoleLogging
  let console ← if shown then (threshold level).map fun least => some (least, colors) else .ok none
  let ready := .loggingReady :: (if shown then [.consoleReady level colors] else [])
  if settings.flag profile .fileLogging then
    let path := Path.ofText (settings.logFilePath profile)
    let made := makeLogFile files path
    match made.result with
    | .ok () =>
      return (⟨console, some (← files.resolve path)⟩, made.files,
        ready ++ [.logFileReady (← files.absolute path)])
    | .error .system => .ok (⟨console, none⟩, made.files, .logFileRefused :: ready)
    | .error failure => .error failure
  else .ok (⟨console, none⟩, files, ready)

/-! ## The run -/

structure Outcome where
  code : Nat
  output : String
  diagnostics : List Diagnostic
  files : FileTree

/-- Failures that end a run in an orderly way; any other one ends it abruptly. -/
def isReported (failure : Failure) : Bool :=
  failure.isInterpretation || failure.isCombination || failure.isPackFault ||
    failure.isScriptFault

/-- What the run does once logging is set up: it checks the settings and produces the table. -/
def work (files : FileTree) (settings : SettingsStore) (arguments : Arguments) :
    Traced (Option Script) := do
  .report .settingsLoaded
  let report ← .ofExcept (settings.check files profile)
  .reportAll report.events
  .reportAll (report.warnings.map .settingsWarning)
  -- Invalid settings only matter when they have to say what is read.
  if arguments.paths.isEmpty ∧ !report.isValid then
    .reportAll (report.errors.map .settingsError)
    return none
  else
    let produced := produce files settings arguments
    .reportAll produced.events
    match produced.result with
    | .ok script => return some script
    | .error failure =>
      if isReported failure then
        .report (.runFailed failure)
        return none
      else .fail failure

/-- The settings have to be kept somewhere, and not in a directory. -/
def checkSettings (files : FileTree) : SettingsPlace → Except Failure Unit
  | .standard => .ok ()
  | .file path => SettingsStore.checkFile files (some path.text)
  | .nowhere => .error .noSettingsPlace

def runWith (files : FileTree) (settings : SettingsStore) (arguments : Arguments) (now : Int) :
    Except Failure Outcome :=
  match checkSettings files arguments.settings with
  | .error (.configuration text) =>
    .ok ⟨1, "", [.plain ("Configuration error: " ++ text)], files⟩
  | .error failure => .error failure
  | .ok () => do
    let (logging, files, ready) ← setUpLogging files settings arguments
    -- The file has its first rows before any script is read.
    let files ← logging.keep files now ready
    let worked := work files settings arguments
    let files ← logging.keep files now worked.events
    let diagnostics := (ready ++ worked.events).filterMap (logging.diagnostic? now)
    match ← worked.result with
    | some script => match script.toJson.indented? with
      | some text => return ⟨0, text ++ "\n", diagnostics, files⟩
      | none => .error .tooDeep
    | none => return ⟨1, "", diagnostics, files⟩

def version : String := "megu 0.1.0"

def usage : String :=
  "usage: megu [-h] [--extensions EXTENSIONS] [--pack-meta PACK_META]\n" ++
  "            [--log-level LOG_LEVEL] [--settings SETTINGS] [--version]\n" ++
  "            [paths ...]\n"

def help : String :=
  usage ++
  "\nInterpret and combine Loot Table Scripts.\n" ++
  "\npositional arguments:\n" ++
  "  paths                 script files or directories, combined in the given\n" ++
  "                        order\n" ++
  "\noptions:\n" ++
  "  -h, --help            show this help message and exit\n" ++
  "  --extensions EXTENSIONS\n" ++
  "                        directory with \x7bprefix\x7d/\x7bsuffix\x7d base scripts\n" ++
  "  --pack-meta PACK_META\n" ++
  "                        pack.mcmeta file to check first\n" ++
  "  --log-level LOG_LEVEL\n" ++
  "                        console log level\n" ++
  "  --settings SETTINGS   INI settings file\n" ++
  "  --version             show program's version number and exit\n"

def run (files : FileTree) (settings : SettingsStore) (arguments : List String) (now : Int) :
    Except Failure Outcome :=
  match Arguments.parse arguments with
  | .run arguments => runWith files settings arguments now
  | .showHelp => .ok ⟨0, help, [], files⟩
  | .showVersion => .ok ⟨0, version ++ "\n", [], files⟩
  | .misuse => .ok ⟨2, "", [.usage], files⟩

end CommandLine

end LootScript
