import TierSplit.Decimal.Fixed
import TierSplit.Diagnostic

/-! Log events: a level, a name and named data. A finished operation reports how long it took, and a
slow one says so; a failed one reports its cause. -/

namespace TierSplit.Log

inductive Level where
  | debug
  | info
  | warning
  | error
  | critical
deriving Repr, DecidableEq

def Level.name : Level → String
  | .debug => "debug"
  | .info => "info"
  | .warning => "warning"
  | .error => "error"
  | .critical => "critical"

def Level.severity : Level → Nat
  | .debug => 10
  | .info => 20
  | .warning => 30
  | .error => 40
  | .critical => 50

/-- The level of a name; some levels have a second one. -/
def Level.ofName? : String → Option Level
  | "debug" => some .debug
  | "info" => some .info
  | "warning" | "warn" => some .warning
  | "error" | "exception" => some .error
  | "critical" | "fatal" => some .critical
  | _ => none

structure Event where
  level : Level
  name : String
  fields : Fields
deriving Repr

/-- What is known of the reason of a failure. -/
structure Cause where
  kind : String
  text : String
  code : Option String
deriving Repr, DecidableEq

def Cause.ofReport (r : Report) : Cause := ⟨r.category.name, r.summary, some r.code⟩

def Cause.ofFailure (e : Failure) : Cause := ⟨e.kind, e.message, e.code⟩

def Cause.fields (c : Cause) : Fields :=
  [("error_type", .str c.kind), ("error_message", .str c.text)] ++
    match c.code with
    | some code => [("error_code", .str code)]
    | none => []

/-- An error; what is known of its cause wins over the extra data. -/
def errorEvent (name : String) (cause : Option Cause) (extra : Fields) : Event :=
  match cause with
  | some c => ⟨.error, name, extra.update c.fields⟩
  | none => ⟨.error, name, extra⟩

def finished (operation : String) (elapsed : Float) (extra : Fields) : Event :=
  let fields :=
    Fields.update [("operation", .str operation), ("duration_ms", .float (Decimal.cents elapsed))] extra
  if 1000.0 < elapsed then ⟨.warning, "slow_operation", fields.insert "slow" (.bool true)⟩
  else ⟨.info, "operation_complete", fields⟩

def failed (operation : String) (elapsed : Float) (cause : Cause) (extra : Fields) : Event :=
  errorEvent (operation ++ "_failed") (some cause)
    (Fields.update [("duration_ms", .float (Decimal.cents elapsed))] extra)

def ended (operation : String) (elapsed : Float) (cause : Option Cause) (extra : Fields) : Event :=
  match cause with
  | some c => failed operation elapsed c extra
  | none => finished operation elapsed extra

def clashes (taken : List String) (extra : Fields) : Bool := extra.any fun e => taken.contains e.1

/-- An error event, unless the extra data clashes with its own parts. -/
def errorEvent? (name : String) (cause : Option Cause) (extra : Fields) : Option Event :=
  if clashes ["logger", "message", "error", "event"] extra then none else some (errorEvent name cause extra)

def finished? (operation : String) (elapsed : Float) (extra : Fields) : Option Event :=
  if clashes ["logger", "operation", "duration_ms", "event"] extra then none
  else some (finished operation elapsed extra)

def failed? (operation : String) (elapsed : Float) (cause : Cause) (extra : Fields) : Option Event :=
  if clashes ["logger", "message", "error", "duration_ms", "event"] extra then none
  else some (failed operation elapsed cause extra)

end TierSplit.Log
