import TierSplit.Json.Writer
import TierSplit.Log.Event
import TierSplit.Log.Threshold
import TierSplit.Ordered
import TierSplit.Text.Blank

/-! Log lines, as one JSON object or as text for a console. Events below the threshold are dropped. -/

namespace TierSplit.Log

inductive Format where
  | console
  | json
deriving Repr, DecidableEq

def Format.name : Format → String
  | .console => "console"
  | .json => "json"

inductive Fault where
  /-- The level is no level. -/
  | unknownLevel (text : String)
  | notLevel
  /-- An event has a field of a name that is spoken for, or of the wrong type. -/
  | misfit
  /-- An event claims to come from a record that it does not have. -/
  | noRecord
deriving Repr, DecidableEq

def Fault.message : Fault → String
  | .unknownLevel text => "Unknown level: " ++ Text.quoted text
  | .notLevel => "Level is neither a number nor a name"
  | .misfit => "Event with a misfitting field"
  | .noRecord => "Event without a record"

/-- The least severity that is written; an unknown name stands for `info`. -/
def threshold (level : String) : Except Fault Nat :=
  match LevelName.ofString level with
  | .severity n => .ok n
  | .text s => .error (.unknownLevel s)
  | .table => .error .notLevel
  | .unknown => .ok 20

/-- Names of fields that are spoken for. -/
def takenNames : List String := ["self", "event", "method_name"]

/-- Fields that only say what else to write, and are not written themselves. -/
def requests : List String := ["exc_info", "stack_info"]

def writtenFields (fields : Fields) : Fields := fields.filter fun e => !requests.contains e.1

def hasRecord (fields : Fields) : Bool :=
  match fields.get? "_record" with
  | some .null => false
  | some _ => true
  | none => false

def jsonLine (logger : String) (e : Event) : String :=
  Json.line (.dict (e.fields.update
    [("level", .str e.level.name), ("logger", .str logger), ("message", .str e.name)]))

def padRight (width : Nat) (s : String) : String :=
  s ++ String.ofList (List.replicate (width - s.length) ' ')

def needsQuotes (c : Char) : Bool :=
  c == ' ' || c == '\t' || c == '=' || c == '\r' || c == '\n' || c == '"' || c == '\''

/-- Plain words stand bare. -/
def consoleValue : Value → String
  | .str s => if s.toList.any needsQuotes then Text.quoted s else s
  | v => v.literal

/-- Keys with a column of their own, or with lines after the first. -/
def columnKeys : List String := ["timestamp", "level", "logger", "logger_name", "stack", "exception"]

def consoleFields (fields : Fields) : List String :=
  let others := fields.filter fun e => !columnKeys.contains e.1
  (sortBy (fun a b => a.1 ≤ b.1) others).map fun e => e.1 ++ "=" ++ consoleValue e.2

def bracketed (s : String) : String := "[" ++ s ++ "]"

def optionalColumn (fields : Fields) (key : String) (view : String → String) : List String :=
  match fields.get? key with
  | some v => [view v.display]
  | none => []

def trimRight (s : String) : String :=
  String.ofList (s.toList.reverse.dropWhile (· == ' ')).reverse

def consoleHead (logger : String) (e : Event) : String :=
  let parts := optionalColumn e.fields "timestamp" id ++
    [bracketed (padRight 9 e.level.name), padRight 30 e.name, bracketed logger] ++
    optionalColumn e.fields "logger_name" bracketed ++ consoleFields e.fields
  trimRight (" ".intercalate (parts.filter fun p => !p.isEmpty))

/-- A field that is written on lines of its own must be text. -/
def trailing? (fields : Fields) (key : String) : Except Fault (Option String) :=
  match fields.get? key with
  | none => .ok none
  | some .null => .ok none
  | some (.str s) => .ok (some s)
  | some _ => .error .misfit

def rule : String := String.ofList (List.replicate 79 '=')

/-- The head of the line, then the stack and the exception if there are any, with a rule between. -/
def consoleLine (logger : String) (e : Event) : Except Fault String := do
  let stack ← trailing? e.fields "stack"
  let exception ← trailing? e.fields "exception"
  let head := consoleHead logger e
  return match stack, exception with
    | none, none => head
    | some s, none => head ++ "\n" ++ s
    | none, some x => head ++ "\n" ++ x
    | some s, some x => head ++ "\n" ++ s ++ "\n\n" ++ rule ++ "\n\n" ++ x

def line (format : Format) (logger : String) (e : Event) : Except Fault String :=
  if clashes takenNames e.fields then .error .misfit
  else if hasRecord e.fields then .error .noRecord
  else
    let e := { e with fields := writtenFields e.fields }
    match format with
    | .json => .ok (jsonLine logger e)
    | .console => consoleLine logger e

/-- The nameless logger is the root of all others. -/
def loggerName (name : String) : String := if name.isEmpty then "root" else name

/-- The lines that a logger writes at a level. An event that cannot be written is a fault even if it
lies below the threshold. -/
def lines (level : String) (format : Format) (logger : String) (events : List Event) :
    Except Fault (List String) := do
  let least ← threshold level
  let written ← events.mapM fun e => do
    let text ← line format (loggerName logger) e
    return if least ≤ e.level.severity then Text.splitLines (text ++ "\n") else []
  return written.flatten

end TierSplit.Log
