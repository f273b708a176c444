import LootScript.Path
import LootScript.Text.Digit

/-!
# Arguments of the command line

Options begin with two hyphens and may be shortened as long as one option is meant; a value follows
after an equals sign or as the next argument. After a lone `--` everything is a path. The paths have
to stand together: a second group of paths behind an option is a misuse, as is an unknown option,
but both count only when all arguments have been gone through, so that a request for help or for the
version comes first.
-/
namespace LootScript

inductive SettingsPlace
  | standard
  | file (path : Path)
  /-- The option for a settings file was taken back, which leaves no place at all. -/
  | nowhere
  deriving DecidableEq

structure Arguments where
  paths : List Path
  extensions : Option Path
  packMeta : Option Path
  logLevel : Option String
  settings : SettingsPlace

inductive Request
  | run (arguments : Arguments)
  | showHelp
  | showVersion
  | misuse

namespace Arguments

def none : Arguments := ⟨[], .none, .none, .none, .standard⟩

inductive Switch
  | help
  | extensions
  | packMeta
  | logLevel
  | settings
  | version
  deriving DecidableEq

/-- An argument by its form. An option may carry a value that is part of the argument. -/
inductive Word
  | operand (text : String)
  | option (switch : Switch) (value : Option String)
  /-- The short form of the help option, with whatever follows it. -/
  | shortHelp (tail : List Char)
  | unknown
  | separator

def switches : List (String × Switch) :=
  [("--help", .help), ("--extensions", .extensions), ("--pack-meta", .packMeta),
    ("--log-level", .logLevel), ("--settings", .settings), ("--version", .version)]

/-- Digits, or a point with digits behind it and perhaps before it; a line may end after them. -/
def isNumber (text : List Char) : Bool :=
  let text := if text.getLast? = some '\n' then text.dropLast else text
  let whole := text.takeWhile Text.isDecimalDigit
  match text.dropWhile Text.isDecimalDigit with
  | [] => !whole.isEmpty
  | '.' :: fraction => !fraction.isEmpty && fraction.all Text.isDecimalDigit
  | _ => false

/-- A number below zero is no option. -/
def isNegativeNumber (text : List Char) : Bool :=
  match text with
  | '-' :: number => isNumber number
  | _ => false

/-- The part before the first equals sign, and the part after it if there is one. -/
def splitValue (text : List Char) : List Char × Option String :=
  (text.takeWhile (· ≠ '='),
    match text.dropWhile (· ≠ '=') with
    | [] => .none
    | _ :: value => some (String.ofList value))

/-- The options that a beginning may stand for; an option written out stands for itself. -/
def meant (name : List Char) : List Switch :=
  match switches.lookup (String.ofList name) with
  | some switch => [switch]
  | .none => (switches.filter fun entry => name.isPrefixOf entry.1.toList).map Prod.snd

/-- The form of one argument; an ambiguous beginning of an option has none. -/
def classify? (argument : String) : Option Word :=
  let chars := argument.toList
  let (name, value) := splitValue chars
  -- What names no option may still be a path, if it does not look like an option.
  let other :=
    if isNegativeNumber chars ∨ ' ' ∈ chars then Word.operand argument else .unknown
  match chars with
  | '-' :: '-' :: _ => match meant name with
    | [] => some other
    | [switch] => some (.option switch value)
    | _ => .none
  | '-' :: 'h' :: tail => some (.shortHelp tail)
  | '-' :: _ :: _ => some other
  | _ => some (.operand argument)

def classifyAll? : List String → Option (List Word)
  | [] => some []
  | argument :: rest =>
    if argument = "--" then some (.separator :: rest.map .operand)
    else do return (← classify? argument) :: (← classifyAll? rest)

/-- Where the group of paths is. -/
inductive Group
  | ahead
  | open
  | closed

structure Draft where
  arguments : Arguments
  group : Group
  spoiled : Bool

namespace Draft

def start : Draft := ⟨.none, .ahead, false⟩

/-- An option ends the group of paths. -/
def endGroup (draft : Draft) : Draft :=
  match draft.group with
  | .open => { draft with group := .closed }
  | _ => draft

/-- Paths may be added unless their group has ended. -/
def addPaths (draft : Draft) (paths : List Path) : Draft :=
  match draft.group with
  | .closed => { draft with spoiled := true }
  | _ => { draft with
      group := .open
      arguments := { draft.arguments with paths := draft.arguments.paths ++ paths } }

/-- Sets the value of an option, or takes it back; the last value counts. -/
def set (draft : Draft) (switch : Switch) (value : String) : Draft :=
  let old := draft.arguments
  let given := if value = "--" then .none else some value
  { draft.endGroup with
    arguments := match switch with
      | .extensions => { old with extensions := given.map .ofText }
      | .packMeta => { old with packMeta := given.map .ofText }
      | .logLevel => { old with logLevel := given }
      | .settings => { old with
          settings := (given.map fun text => .file (.ofText text)).getD .nowhere }
      | .help | .version => old }

def finish (draft : Draft) : Request :=
  if draft.spoiled then .misuse else .run draft.arguments

end Draft

/-- Short options may be run together, after an equals sign too, but help is the only one. -/
def repeatsHelp (tail : List Char) : Bool :=
  match tail with
  | '=' :: letters => !letters.isEmpty && letters.all (· = 'h')
  | letters => letters.all (· = 'h')

def read (draft : Draft) : List Word → Request
  | [] => draft.finish
  | .operand text :: rest => read (draft.addPaths [.ofText text]) rest
  | .separator :: rest => read (draft.addPaths []) rest
  | .unknown :: rest => read { draft.endGroup with spoiled := true } rest
  -- Requests for help and for the version are met at once, whatever was wrong before them.
  | .shortHelp tail :: _ => if repeatsHelp tail then .showHelp else .misuse
  | .option .help .none :: _ => .showHelp
  | .option .version .none :: _ => .showVersion
  | .option .help (some _) :: _ | .option .version (some _) :: _ => .misuse
  | .option switch (some value) :: rest => read (draft.set switch value) rest
  | .option switch .none :: .operand value :: rest => read (draft.set switch value) rest
  | .option _ .none :: _ => .misuse

def parse (arguments : List String) : Request :=
  match classifyAll? arguments with
  | some words => read .start words
  | .none => .misuse

end Arguments

end LootScript
