import LootScript.Json.Agreement
import LootScript.Json.Display

/-!
# Log records

A record says how important a message is, which part of the program it comes from, and when it was
made. Importance is a number; the whole numbers that are commonly used have names. Times are counted
in seconds from the start of 1970, and shown in UTC.
-/
namespace LootScript

namespace Log

/-- How important a record is. -/
inductive Level
  | whole (n : Int)
  /-- Anything else has neither a name nor a color, and is known by its text. -/
  | other (text : String)

namespace Level

def debug : Int := 10
def info : Int := 20
def warning : Int := 30
def error : Int := 40
def critical : Int := 50

def names : List (Int × String) :=
  [(0, "NOTSET"), (debug, "DEBUG"), (info, "INFO"), (warning, "WARNING"), (error, "ERROR"),
    (critical, "CRITICAL")]

def name : Level → String
  | .whole n => (names.lookup n).getD ("Level " ++ toString n)
  | .other text => "Level " ++ text

/-- The level that a value stands for; a number that is equal to one with a name is that one. -/
def ofJson : Json → Level
  | .int n => .whole n.value
  | value =>
    match names.find? fun named => (Json.ofInteger? named.1).any (Json.agrees value) with
    | some (n, _) => .whole n
    | none => .other value.display

end Level

/-- A failure that a record carries: the name of its class and its text. -/
structure Exception where
  className : String
  text : String

def Exception.line (exception : Exception) : String :=
  if exception.text.isEmpty then exception.className
  else exception.className ++ ": " ++ exception.text

structure Record where
  level : Level
  logger : String
  message : String
  /-- The file that the message comes from. -/
  origin : String
  /-- The line of that file, as it is shown. -/
  line : String
  created : Int
  exception : Option Exception

namespace Record

/-- The name of the file without its directory and its last extension; leading dots stay. -/
def originName (record : Record) : String :=
  let file := (record.origin.toList.reverse.takeWhile (· ≠ '/')).reverse
  let reversed := file.reverse
  let extension := reversed.takeWhile (· ≠ '.')
  let stem := ((reversed.drop extension.length).drop 1).reverse
  if extension.length < file.length ∧ !stem.all (· = '.') then String.ofList stem
  else String.ofList file

end Record

/-! ## Times -/

def pad (width : Nat) (n : Nat) : String :=
  let digits := toString n
  String.ofList (List.replicate (width - digits.length) '0') ++ digits

/--
Year, month and day of a day counted from 1970. Years are taken to begin in March, so that a leap
day is the last day of its year, and days are counted in cycles of four centuries.
-/
def civilDate (day : Int) : Int × Nat × Nat :=
  let shifted := day + 719468
  let cycle := shifted.fdiv 146097
  let dayOfCycle := (shifted.fmod 146097).toNat
  let yearOfCycle :=
    (dayOfCycle - dayOfCycle / 1460 + dayOfCycle / 36524 - dayOfCycle / 146096) / 365
  let dayOfYear := dayOfCycle - (365 * yearOfCycle + yearOfCycle / 4 - yearOfCycle / 100)
  let monthFromMarch := (5 * dayOfYear + 2) / 153
  let dayOfMonth := dayOfYear - (153 * monthFromMarch + 2) / 5 + 1
  let month := if monthFromMarch < 10 then monthFromMarch + 3 else monthFromMarch - 9
  let year := (yearOfCycle : Int) + cycle * 400 + (if month ≤ 2 then 1 else 0)
  (year, month, dayOfMonth)

def clockText (seconds : Int) : String :=
  let second := (seconds.fmod 86400).toNat
  pad 2 (second / 3600) ++ ":" ++ pad 2 (second / 60 % 60) ++ ":" ++ pad 2 (second % 60)

/-- Months and days have two digits; a year has as many as it needs. -/
def dateText (seconds : Int) : String :=
  let (year, month, day) := civilDate (seconds.fdiv 86400)
  toString year ++ "-" ++ pad 2 month ++ "-" ++ pad 2 day

def timeText (seconds : Int) : String := dateText seconds ++ " " ++ clockText seconds

end Log

end LootScript
