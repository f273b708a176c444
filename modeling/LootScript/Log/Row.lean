import LootScript.Log.Record

/-!
# Log rows in a file

A log file has a row per record with five fields: time, level, logger, place and message. Every
field stands in quotation marks, and a mark inside of a field is written twice, so that line breaks
and semicolons need no further care. The reader takes rows apart again, one character at a time, and
knows every way to end a line.
-/
namespace LootScript

namespace Log

namespace Row

def quote (field : String) : List Char :=
  '"' :: (field.toList.flatMap (fun c => if c = '"' then ['"', '"'] else [c]) ++ ['"'])

def write (fields : List String) : String :=
  String.ofList (List.intercalate [';'] (fields.map quote))

/-- Where the reader stands in a row. -/
inductive Place
  | rowStart
  /-- After a carriage return that ended a row: a line feed still belongs to it. -/
  | returned
  | fieldStart
  | plain
  | quoted
  /-- After a mark inside of a quoted field: it closes the field unless it is written twice. -/
  | mark

/-- Rows, fields and characters that have been read, each last one first. -/
structure Reader where
  rows : List (List String)
  fields : List String
  field : List Char
  place : Place

namespace Reader

def start : Reader := ⟨[], [], [], .rowStart⟩

def endField (r : Reader) : Reader :=
  { r with fields := String.ofList r.field.reverse :: r.fields, field := [], place := .fieldStart }

/-- Ends a row, where `place` says what may come next. -/
def endRow (r : Reader) (place : Place) : Reader :=
  let closed := r.endField
  { rows := closed.fields.reverse :: closed.rows, fields := [], field := [], place := place }

def push (r : Reader) (c : Char) (place : Place) : Reader :=
  { r with field := c :: r.field, place := place }

/-- A character outside of quotation marks. -/
def unquoted (r : Reader) (c : Char) : Reader :=
  if c = ';' then r.endField
  else if c = '\n' then r.endRow .rowStart
  else if c = '\r' then r.endRow .returned
  else r.push c .plain

/-- The first character of a field. -/
def beginField (r : Reader) (c : Char) : Reader :=
  if c = '"' then { r with place := .quoted } else r.unquoted c

/-- The first character of a row; a row that is ended at once has no fields. -/
def beginRow (r : Reader) (c : Char) : Reader :=
  if c = '\n' then { r with rows := [] :: r.rows, place := .rowStart }
  else if c = '\r' then { r with rows := [] :: r.rows, place := .returned }
  else r.beginField c

def step (r : Reader) (c : Char) : Reader :=
  match r.place with
  | .rowStart => r.beginRow c
  | .returned => if c = '\n' then { r with place := .rowStart } else r.beginRow c
  | .fieldStart => r.beginField c
  | .plain => r.unquoted c
  | .quoted => if c = '"' then { r with place := .mark } else r.push c .quoted
  | .mark => if c = '"' then r.push c .quoted else r.unquoted c

/-- All rows in order; a last row needs no line break. -/
def finish (r : Reader) : List (List String) :=
  match r.place with
  | .rowStart | .returned => r.rows.reverse
  | _ => (r.endRow .rowStart).rows.reverse

end Reader

def readAll (text : String) : List (List String) :=
  (text.toList.foldl Reader.step Reader.start).finish

end Row

/-- The message with the text of its exception, if it has one. -/
def Record.fullMessage (record : Record) : String :=
  match record.exception with
  | none => record.message
  | some exception => record.message ++ "\n" ++ exception.line

/-- The fields of a record, by the way in which times are shown and levels are named. -/
def Record.fieldsWith (showTime : Int → String) (nameLevel : Level → String) (record : Record) :
    List String :=
  [showTime record.created, nameLevel record.level, record.logger,
    record.originName ++ ":" ++ record.line, record.fullMessage]

def Record.rowWith (showTime : Int → String) (nameLevel : Level → String) (record : Record) :
    String :=
  Row.write (record.fieldsWith showTime nameLevel)

def Record.row : Record → String := Record.rowWith timeText Level.name

end Log

end LootScript
