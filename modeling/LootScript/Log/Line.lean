import LootScript.Log.Record

/-!
# Log lines on the console

A record is shown as a line: the time, the level and the message, or the level and the message
alone. The level is filled up to a fixed width and, if the console has colors, set in the color of
its importance. The text of an exception begins on a new line.
-/
namespace LootScript

namespace Log

def reset : String := "\x1b[0m"

def color? : Level → Option String
  | .whole n =>
    [(Level.debug, "\x1b[36m"), (Level.info, "\x1b[32m"), (Level.warning, "\x1b[33m"),
      (Level.error, "\x1b[31m"), (Level.critical, "\x1b[35m")].lookup n
  | .other _ => none

def levelWidth : Nat := 8

def fill (text : String) : String :=
  text ++ String.ofList (List.replicate (levelWidth - text.length) ' ')

/-- A level in its color, filled up inside of the color; a level without a color stays bare. -/
def coloredLevel (level : Level) : String :=
  match color? level with
  | some color => color ++ fill level.name ++ reset
  | none => level.name

def levelText (colors : Bool) (level : Level) : String :=
  if colors then coloredLevel level else level.name

/-- Puts the text of an exception on a line of its own after a text. -/
def withException (record : Record) (text : String) : String :=
  match record.exception with
  | none => text
  | some exception =>
    (if text.toList.getLast? = some '\n' then text else text ++ "\n") ++ exception.line

/-- What follows the time in the line of a record. -/
def Record.untimed (record : Record) (colors : Bool) : String :=
  fill (levelText colors record.level) ++ " : " ++ record.message

def Record.consoleLine (record : Record) (colors : Bool) : String :=
  withException record (clockText record.created ++ " : " ++ record.untimed colors)

def Record.shortLine (record : Record) (colors : Bool) : String :=
  withException record (levelText colors record.level ++ " " ++ record.message)

end Log

end LootScript
