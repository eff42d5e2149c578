import Conform.Event
import Conform.Value.Text

/-! What observers see of a record: the log, and the trace of observed checks. -/

namespace Conform

inductive LogLevel where
  | debug | trace
deriving DecidableEq

structure LogEntry where
  level : LogLevel
  fields : List (String × String)
deriving DecidableEq

namespace Event

/-- The log entry of an event. Observed checks and the forming of texts are not logged. -/
def logEntry? : Event → Option LogEntry
  | rejected error =>
    some ⟨.debug, [("message", "rejected checker configuration"), ("error", error.text)]⟩
  | inspectionFailed kind =>
    some ⟨.trace, [("message", "inspection failed"), ("kind", kind.name)]⟩
  | checkFailed text =>
    some ⟨.debug, [("message", "checker failed during inspection"), ("error", text)]⟩
  | raised failure =>
    some ⟨.debug, [("message", "assertion failed"), ("origin", failure.origin),
      ("kind", failure.kind.name), ("message", failure.message)]⟩
  | probed _ _ => none
  | formatted => none

/-- The observed check and the value that it was given. -/
def probe? : Event → Option (Probe × Value)
  | probed probe v => some (probe, v)
  | _ => none

end Event

def log (events : List Event) : List LogEntry := events.filterMap Event.logEntry?

def trace (events : List Event) : List (Probe × Value) := events.filterMap Event.probe?

@[simp] theorem log_nil : log [] = [] := rfl

@[simp] theorem log_append (events later : List Event) :
    log (events ++ later) = log events ++ log later := List.filterMap_append

@[simp] theorem trace_nil : trace [] = [] := rfl

@[simp] theorem trace_append (events later : List Event) :
    trace (events ++ later) = trace events ++ trace later := List.filterMap_append

end Conform
