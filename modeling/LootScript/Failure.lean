import LootScript.Json.Display
import LootScript.Path

/-!
# Failures

Everything that can go wrong, from a character in an identifier up to a run of the command line.
Each layer wraps the failure of the layer below it, so a failure is a chain of causes, and its
message is made from the chain. The reasons of a JSON reader and of the operating system are not
worded here: they stand in messages as the marks `<json>` and `<os>`. Where a message shows a path
as it was named, the failure holds that text, which need not be the normal form of the path.
-/
namespace LootScript

/-- What is wrong with a text inside a script. -/
inductive ScriptFault
  | general
  | identifier
  | identifierCharacters
  | identifierColons
  | dropType
  | unknownDropType
  | unsafeFlag
  | dropLayout
  | extension
  | unknownExtension
  | circularExtension
  | unreadableExtension
  deriving DecidableEq

/-- What stops a script file from being read. -/
inductive ReadFault
  | general
  | access
  | form
  | content
  deriving DecidableEq

inductive Failure
  /-- A value inside a script is wrong. -/
  | script (fault : ScriptFault) (value : Json)
  /-- A value inside a script is wrong for a reason that was found before. -/
  | scriptBy (fault : ScriptFault) (value : Json) (cause : Failure)
  /-- Decoded data does not have the shape of a script. -/
  | shape (location problem : String)
  | read (fault : ReadFault) (path : Path) (cause : Failure)
  | interpretation (path : Path) (text : String)
  | missing (named : String)
  | notAFile (named : String)
  | unreadableScript (path : Path) (cause : Failure)
  /-- One of several scripts does not compile. -/
  | combination (index : Nat) (cause : Failure)
  | pack (path : Path) (text : String)
  | packMissing (named : String)
  | packIsDirectory (named : String)
  | packAccess (named : String) (cause : Failure)
  | packForm (named : String) (cause : Failure)
  | packWithoutOptions (named : String)
  | configuration (text : String)
  /-- The settings option was taken back, so there is no place that settings are kept in. -/
  | noSettingsPlace
  /-- A name that is asked for as a level is the name of a way to write records. -/
  | notALevel (name : String)
  /-- A text is not JSON. -/
  | notJson
  /-- Containers nest too deep to be printed. -/
  | tooDeep
  /-- A path with a null character in it cannot be handed to the operating system. -/
  | nullCharacter
  /-- The operating system refused. -/
  | system
  deriving DecidableEq

namespace ScriptFault

/-- The wording for a value; the general faults take the words of their cause, if there is one. -/
def message (fault : ScriptFault) (value : String) (cause : Option String) : String :=
  match fault with
  | .general | .identifier | .dropType | .extension =>
    cause.getD ("Invalid value '" ++ value ++ "'")
  | .identifierCharacters => "'" ++ value ++ "' contains characters not allowed in a namespace"
  | .identifierColons => "'" ++ value ++ "' contains more than one ':'"
  | .unknownDropType => "'" ++ value ++ "' is not a known drop type"
  | .unsafeFlag => "'" ++ value ++ "' does not match its required 'unsafe' flag"
  | .dropLayout =>
    "'" ++ value ++ "' node cannot combine 'name' and 'children' " ++
      "or declare children on a non-composite type"
  | .unknownExtension => "Does not recognize '" ++ value ++ "' in 'extend' field"
  | .circularExtension => "'" ++ value ++ "' extends itself through its inheritance chain"
  | .unreadableExtension =>
    "Extension '" ++ value ++ "' could not be read: " ++ cause.getD "None"

end ScriptFault

namespace Failure

def bracketed (named text : String) : String := "[" ++ named ++ "] " ++ text

/-- A text about one of several scripts. -/
def numbered (index text : String) : String := "Script #" ++ index ++ ": " ++ text

/-- The message, with what the JSON reader and the system have to say. -/
def wording (json os : String) : Failure → String
  | .script fault value => fault.message value.display none
  | .scriptBy fault value cause => fault.message value.display (some (cause.wording json os))
  | .shape location problem => location ++ ": " ++ problem
  | .read _ path cause => bracketed path.text (cause.wording json os)
  | .interpretation _ text => text
  | .missing named => "'" ++ named ++ "' does not exist"
  | .notAFile named => "'" ++ named ++ "' is not a file"
  | .unreadableScript _ cause => cause.wording json os
  | .combination index cause => numbered (toString index) (cause.wording json os)
  | .pack _ text => text
  | .packMissing named => "'" ++ named ++ "' does not exist"
  | .packIsDirectory named => "'" ++ named ++ "' is a directory"
  | .packAccess named cause => bracketed named (cause.wording json os)
  | .packForm named cause => bracketed named (cause.wording json os)
  | .packWithoutOptions named => "'" ++ named ++ "' does not have 'compiler_options' field"
  | .configuration text => text
  | .noSettingsPlace => "no settings file"
  | .notALevel name => "Unknown level: '" ++ name ++ "'"
  | .notJson => json
  | .tooDeep => "Recursion limit reached"
  | .nullCharacter => "embedded null byte"
  | .system => os

/-- The message, with marks for what is not worded here. -/
def message (failure : Failure) : String := failure.wording "<json>" "<os>"

/-- A failure and all its causes, outermost first. -/
def chain : Failure → List Failure
  | failure@(.scriptBy _ _ cause) | failure@(.read _ _ cause)
  | failure@(.unreadableScript _ cause) | failure@(.combination _ cause)
  | failure@(.packAccess _ cause) | failure@(.packForm _ cause) => failure :: cause.chain
  | failure => [failure]

/-- A fault of a script's content. -/
def isScriptFault : Failure → Bool
  | .script .. | .scriptBy .. => true
  | _ => false

/-- A fault met on the way from a path to a decoded script. -/
def isInterpretation : Failure → Bool
  | .interpretation .. | .missing _ | .notAFile _ | .unreadableScript .. => true
  | _ => false

def isCombination : Failure → Bool
  | .combination .. => true
  | _ => false

def isPackFault : Failure → Bool
  | .pack .. | .packMissing _ | .packIsDirectory _ | .packAccess .. | .packForm ..
  | .packWithoutOptions _ => true
  | _ => false

end Failure

end LootScript
