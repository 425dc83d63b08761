/-
  Muffle.Log

  Log lines. An event has a name and fields and comes from a logger; it is written if its level
  reaches the threshold. In development a line sets level, name and logger into columns, with the
  fields sorted after them; otherwise it is one JSON object.
-/

import Muffle.Console.Layout
import Muffle.Json.Writer
import Muffle.Notice
import Muffle.Text.Case

namespace Muffle.Log

/-! ## Levels -/

/-- How important an event is. -/
inductive Level where
  | debug
  | info
  | warning
  | error
  | critical
deriving DecidableEq, Repr

namespace Level

/-- The levels by the names of the calls that log at them. -/
def names : List (String × Level) :=
  [("debug", .debug), ("info", .info), ("warning", .warning), ("warn", .warning),
   ("error", .error), ("critical", .critical), ("fatal", .critical)]

/-- The level that a name stands for. -/
def ofName? (name : String) : Option Level := names.lookup name

/-- The word for a level. -/
def word : Level → String
  | .debug => "debug"
  | .info => "info"
  | .warning => "warning"
  | .error => "error"
  | .critical => "critical"

/-- The rank of a level. -/
def rank : Level → Nat
  | .debug => 10
  | .info => 20
  | .warning => 30
  | .error => 40
  | .critical => 50

/-- The level of a notice. -/
def ofNotice : Notice.Level → Level
  | .debug => .debug
  | .info => .info
  | .warning => .warning

end Level

/-- The lowest rank that is written, by the name of a level; the case of the name does not count,
    and `notset` lets everything through. -/
def threshold (name : String) : Except Fault Nat :=
  let key := String.ofList (Text.lower (Text.upper name.toList))
  if key = "notset" then .ok 0
  else
    match Level.ofName? key with
    | some l => .ok l.rank
    | none => .error .unknownLogLevel

/-! ## Lines -/

/-- How lines are written. -/
inductive Form where
  | columns
  | json
deriving DecidableEq, Repr

/-- The form for an environment. -/
def Form.ofEnvironment (name : String) : Form :=
  if Text.lower name.toList = "development".toList then .columns else .json

/-- An event. A null name is left out of its line. -/
structure Event where
  level : Level
  name : Value
  fields : List (String × Value)
  logger : String

namespace Event

/-- A field set to a value: at its place if it is there already, else at the end. -/
def setField (name : String) (v : Value) : List (String × Value) → List (String × Value)
  | [] => [(name, v)]
  | f :: rest => if f.1 = name then (name, v) :: rest else f :: setField name v rest

/-- All fields of an event in the order of a JSON line. -/
def allFields (e : Event) : List (String × Value) :=
  let named := match e.name with
    | .null => e.fields
    | name => setField "event" name e.fields
  setField "logger" (.str e.logger) (setField "level" (.str e.level.word) named)

/-- The line of an event as JSON. -/
def jsonLine (e : Event) : String := Json.compact (.ofFields e.allFields)

/-- A text filled up with spaces. -/
def padded (width : Nat) (s : String) : String :=
  String.ofList (s.toList ++ Console.spaces (width - s.length))

/-- A character that makes a text stand in quotes. -/
def needsQuotes (c : Char) : Bool :=
  c == ' ' || c == '\t' || c == '=' || c == '\r' || c == '\n' || c == '"' || c == '\''

/-- The value of a field in a column line. -/
def shownValue : Value → String
  | .str s => if s.toList.any needsQuotes then Text.quoted s else s
  | v => v.quoted

/-- The names of fields that have columns of their own. -/
def columnNames : List String := ["event", "level", "logger"]

/-- Inserts a field before the first one of a greater name. -/
def insertField (f : String × Value) : List (String × Value) → List (String × Value)
  | [] => [f]
  | g :: rest => if f.1 < g.1 then f :: g :: rest else g :: insertField f rest

/-- Fields in the order of their names. -/
def sortFields (fs : List (String × Value)) : List (String × Value) := fs.foldr insertField []

/-- The line of an event in columns. -/
def columnLine (e : Event) : String :=
  let name := match e.name with
    | .null => []
    | name => [padded 30 name.text]
  let fields := e.fields.filter fun f => !columnNames.contains f.1
  let cells := ["[" ++ padded 9 e.level.word ++ "]"] ++ name ++ ["[" ++ e.logger ++ "]"] ++
    (sortFields fields).map fun f => f.1 ++ "=" ++ shownValue f.2
  let line := " ".intercalate (cells.filter (· != ""))
  String.ofList (line.toList.reverse.dropWhile (· == ' ')).reverse

/-- The line of an event. -/
def line (e : Event) : Form → String
  | .columns => e.columnLine
  | .json => e.jsonLine

/-- The event that a notice is for a log. -/
def ofNotice (logger : String) (n : Notice) : Event :=
  ⟨.ofNotice n.level, .str n.event, n.fields, logger⟩

end Event

/-- The lines that are written for events, one for each whose level reaches the threshold. -/
def lines (form : Form) (lowest : Nat) (events : List Event) : List String :=
  (events.filter fun e => lowest ≤ e.level.rank).map fun e => e.line form

end Muffle.Log
