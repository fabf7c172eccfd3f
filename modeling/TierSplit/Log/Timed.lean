import TierSplit.Log.Event

/-! A timed operation: extra data at its start, more of it on the way, and an event at its end. Extra
data that takes a name which is spoken for is an error of its own, and takes the place of the event. -/

namespace TierSplit.Log

structure Timed where
  operation : String
  extra : Fields
  updates : List Fields
  cause : Option Cause
deriving Repr

/-- How a timed operation ended: its event, and the kind of error that left it. -/
structure Ending where
  event : Option Event
  raised : Option String
deriving Repr

namespace Timed

def clash : String := "TypeError"

/-- The cause when an update takes the name of the operation itself. -/
def updateClash : Cause :=
  ⟨clash, "LogPerformance.update() got multiple values for argument 'self'", none⟩

def updated (extra : Fields) : List Fields → Fields × Option Cause
  | [] => (extra, none)
  | more :: rest =>
    if clashes ["self"] more then (extra, some updateClash) else updated (extra.update more) rest

def ending (t : Timed) (elapsed : Float) : Ending :=
  if clashes ["self", "logger", "operation"] t.extra then ⟨none, some clash⟩
  else
    let after := updated t.extra t.updates
    match after.2.or t.cause with
    | none =>
      match finished? t.operation elapsed after.1 with
      | some e => ⟨some e, none⟩
      | none => ⟨none, some clash⟩
    | some c =>
      match failed? t.operation elapsed c after.1 with
      | some e => ⟨some e, some c.kind⟩
      | none => ⟨none, some clash⟩

end Timed

end TierSplit.Log
