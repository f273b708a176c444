import LootScript.Identifier
import LootScript.Log.Record

/-!
# Events

What the program reports while it works. An event fixes the importance of its record, the logger
and the file that it comes from, and the wording of the message.
-/
namespace LootScript

inductive Event
  | registryReady (entries : Nat)
  /-- An identifier leads out of the directory of base scripts. -/
  | outsideRoot (id : Identifier) (root : Path)
  | readingBase (id : Identifier) (path : Path)
  | baseFound (id : Identifier)
  | compilingBase (id : Identifier)
  | poolRemoved (id : Identifier)
  | scriptsMerged (scripts pools : Nat)
  | loaderReady
  | scriptLoaded (path : Path) (pools removals : Nat)
  | interpreting (path : Path)
  | scriptsFound (scripts : Nat) (path : Path)
  | scriptsCombined (scripts pools : Nat)
  | levelRejected (level current : String)
  | settingsInvalid (errors : Nat)
  | loggingReady
  | consoleReady (level : String) (colors : Bool)
  | logFileReady (path : Path)
  | logFileRefused
  | settingsLoaded
  | settingsWarning (text : String)
  | settingsError (text : String)
  | extensionsMissing (path : Path)
  | runFailed (failure : Failure)
  deriving DecidableEq

namespace Event

open Log in
def level : Event → Int
  | .interpreting _ | .scriptsFound .. | .scriptsCombined .. => Level.info
  | .outsideRoot .. | .levelRejected .. | .logFileRefused | .settingsWarning _
  | .extensionsMissing _ => Level.warning
  | .settingsError _ | .runFailed _ => Level.error
  | _ => Level.debug

/-- The logger and the file that an event comes from. -/
def place : Event → String × String
  | .registryReady _ => ("megu.scripts.extensions.RegistryExtensionStore", "extensions")
  | .outsideRoot .. | .readingBase .. =>
    ("megu.scripts.extensions.DirectoryExtensionStore", "extensions")
  | .baseFound _ => ("megu.scripts.extensions.ExtensionResolver", "extensions")
  | .compilingBase _ | .poolRemoved _ | .scriptsMerged .. => ("megu.scripts.script", "script")
  | .loaderReady | .scriptLoaded .. => ("megu.scripts.loaders.ScriptFileLoader", "loaders")
  | .interpreting _ | .scriptsFound .. | .scriptsCombined .. =>
    ("megu.scripts.service.ScriptService", "service")
  | .levelRejected .. => ("megu.settings.logging", "logging")
  | .settingsInvalid _ => ("megu.settings.validation", "validation")
  | .loggingReady | .consoleReady .. | .logFileReady _ =>
    ("megu.utils.logging_config", "logging_config")
  | .logFileRefused => ("root", "logging_config")
  | .extensionsMissing _ => ("megu.__main__.build_resolver", "__main__")
  | .settingsLoaded | .settingsWarning _ | .settingsError _ | .runFailed _ =>
    ("megu.__main__.main", "__main__")

def message : Event → String
  | .registryReady entries => "Registry initialized with " ++ toString entries ++ " entries"
  | .outsideRoot id root => "Ignoring " ++ id.text ++ ": outside of " ++ root.text
  | .readingBase id path => "Reading extension " ++ id.text ++ " from " ++ path.text
  | .baseFound id => "Resolved extension " ++ id.text
  | .compilingBase id => "Compiling extension " ++ id.text
  | .poolRemoved id => "Removed pool " ++ id.text
  | .scriptsMerged scripts pools | .scriptsCombined scripts pools =>
    "Combined " ++ toString scripts ++ " scripts into " ++ toString pools ++ " pools"
  | .loaderReady => "ScriptFileLoader initialized"
  | .scriptLoaded path pools removals =>
    "Loaded " ++ path.text ++ " with " ++ toString pools ++ " pools and " ++
      toString removals ++ " removals"
  | .interpreting path => "Interpreting " ++ path.text
  | .scriptsFound scripts path => "Found " ++ toString scripts ++ " scripts in " ++ path.text
  | .levelRejected level current =>
    "Invalid console log level: " ++ level ++ ", keeping " ++ current
  | .settingsInvalid errors =>
    "Settings validation failed with " ++ toString errors ++ " errors"
  | .loggingReady => "Logging initialized"
  | .consoleReady level colors =>
    "Console logging: " ++ level ++ " (colors: " ++ (if colors then "True" else "False") ++ ")"
  | .logFileReady path => "File logging: DEBUG at " ++ path.text
  | .logFileRefused => "Could not setup file logging: " ++ Failure.system.message
  | .settingsLoaded => "Configuration loaded from <settings>"
  | .settingsWarning text | .settingsError text => text
  | .extensionsMissing path =>
    "Extensions directory not found: " ++ path.text ++ ", using builtin registry only"
  | .runFailed failure => failure.message

def record (event : Event) (created : Int) : Log.Record :=
  { level := .whole event.level, logger := event.place.1, message := event.message,
    origin := event.place.2, line := "0", created := created, exception := none }

end Event

end LootScript
