import LootScript.Json.Display
import LootScript.Log.Event
import LootScript.OrderedMap

/-!
# Settings

Settings are cells of a flat store. A cell is named by the profile, the section and the name of the
setting, so profiles do not see each other. Stored values may come from outside and be of any type:
a null cell counts as empty, texts are read off any value, and truth values off texts and numbers.
The log level of the console is the one setting that can refuse a value.
-/
namespace LootScript

abbrev SettingsStore := OrderedMap String Json

/-- The settings that are either on or off. -/
inductive Flag
  | consoleLogging
  | consoleColors
  | fileLogging
  deriving DecidableEq

inductive Setting
  | scriptsPath
  | extensionsPath
  | consoleLevel
  | logFilePath
  | flag (which : Flag)
  deriving DecidableEq

namespace Setting

/-- The section and the name of a setting. -/
def cell : Setting → String
  | .scriptsPath => "paths/scripts"
  | .extensionsPath => "paths/extensions"
  | .consoleLevel => "logging/console_level"
  | .logFilePath => "logging/file_path"
  | .flag .consoleLogging => "logging/console_enabled"
  | .flag .consoleColors => "logging/console_use_colors"
  | .flag .fileLogging => "logging/file_enabled"

def key (profile : String) (setting : Setting) : String := profile ++ "/" ++ setting.cell

end Setting

namespace SettingsStore

/-! ## Reading -/

def value? (store : SettingsStore) (profile : String) (setting : Setting) : Option Json :=
  match store.find? (setting.key profile) with
  | some .null | none => none
  | some value => some value

def readText (store : SettingsStore) (profile : String) (setting : Setting) (default : String) :
    String :=
  ((store.value? profile setting).map Json.display).getD default

/-- Whether a value that is no text counts as on: neither zero nor empty. -/
def isOn : Json → Bool
  | .null => false
  | .bool b => b
  | .int n => n.value ≠ 0
  | .double d => !d.isZero
  | .str text => ["true", "1", "yes"].contains text.toLower
  | .arr items => !items.isEmpty
  | .obj fields => !fields.isEmpty

def flagDefault : Flag → Bool
  | .consoleLogging => true
  | .consoleColors => true
  | .fileLogging => false

def flag (store : SettingsStore) (profile : String) (which : Flag) : Bool :=
  ((store.value? profile (.flag which)).map isOn).getD (flagDefault which)

/-- The directory that is interpreted when no paths are given. -/
def scriptsPath (store : SettingsStore) (profile : String) : Path :=
  .ofText (store.readText profile .scriptsPath ".")

def extensionsPath (store : SettingsStore) (profile : String) : Option Path :=
  let text := store.readText profile .extensionsPath ""
  if text.isEmpty then none else some (.ofText text)

def consoleLevel (store : SettingsStore) (profile : String) : String :=
  store.readText profile .consoleLevel "INFO"

def defaultLogFile : String := "logs/megu.csv"

def logFilePath (store : SettingsStore) (profile : String) : String :=
  let text := store.readText profile .logFilePath defaultLogFile
  if text.isEmpty then defaultLogFile else text

/-! ## Writing -/

def levels : List String := ["DEBUG", "INFO", "WARNING", "ERROR", "CRITICAL"]

/-- The letters outside of ASCII whose capitals are letters of ASCII, with these capitals. -/
def asciiCapitals : List (Char × String) :=
  [('ı', "I"), ('ſ', "S"), ('ß', "SS"), ('ﬀ', "FF"), ('ﬁ', "FI"), ('ﬂ', "FL"), ('ﬃ', "FFI"),
    ('ﬄ', "FFL"), ('ﬅ', "ST"), ('ﬆ', "ST")]

/-- The capitals of a letter, as far as they are letters of ASCII. -/
def capitalsOf (c : Char) : List Char :=
  match asciiCapitals.lookup c with
  | some capitals => capitals.toList
  | none => [c.toUpper]

def capitals (text : String) : String := String.ofList (text.toList.flatMap capitalsOf)

end SettingsStore

inductive Assignment
  /-- A missing path is stored by its name in messages. -/
  | scriptsPath (path : Option Path)
  /-- A missing path clears the setting. -/
  | extensionsPath (path : Option Path)
  | consoleLevel (level : String)
  | logFilePath (value : Json)
  | flag (which : Flag) (value : Json)

namespace Assignment

def setting : Assignment → Setting
  | .scriptsPath _ => .scriptsPath
  | .extensionsPath _ => .extensionsPath
  | .consoleLevel _ => .consoleLevel
  | .logFilePath _ => .logFilePath
  | .flag which _ => .flag which

/-- What is stored, unless the value is refused. -/
def stored? : Assignment → Option Json
  | .scriptsPath path => some (.str ((path.map Path.text).getD Json.null.display))
  | .extensionsPath path => some (.str ((path.map Path.text).getD ""))
  -- A level is stored in capitals, whatever it was given in.
  | .consoleLevel level =>
    let level := SettingsStore.capitals level
    if level ∈ SettingsStore.levels then some (.str level) else none
  | .logFilePath value => some (.str value.display)
  | .flag _ value => some value

def apply (assignment : Assignment) (profile : String) (store : SettingsStore) : SettingsStore :=
  match assignment.stored? with
  | some value => store.insert (assignment.setting.key profile) value
  | none => store

/-- A refused level is reported together with the one that stays. -/
def events (assignment : Assignment) (profile : String) (store : SettingsStore) : List Event :=
  match assignment, assignment.stored? with
  | .consoleLevel level, none => [.levelRejected level (store.consoleLevel profile)]
  | _, _ => []

end Assignment

end LootScript
