import Conform.Inspector

/-! Assertions: named inspectors whose failing reports are raised. -/

namespace Conform

/-- Records a failure on its way to the caller. -/
def Failure.raise (f : Failure) : Recorded (Option Failure) := do
  Recorded.emit (.raised f)
  return some f

@[simp] theorem Failure.value_raise (f : Failure) : f.raise.value = some f := rfl

@[simp] theorem Failure.events_raise (f : Failure) : f.raise.events = [.raised f] := rfl

/-- The text of a message, put together now if that has been put off. -/
def Message.read (m : Message) : Recorded String := do
  if !m.isReady then Recorded.emit .formatted
  return m.text

@[simp] theorem Message.value_read (m : Message) : m.read.value = m.text := by
  cases m <;> rfl

@[simp] theorem Message.events_read (m : Message) :
    m.read.events = if m.isReady then [] else [.formatted] := by
  cases m <;> rfl

/-- The failure that a report is raised as. -/
def Report.raised? (origin : String) : Report → Option Failure
  | pass => none
  | fail kind message => some ⟨kind, message.text, origin⟩

structure Assertion where
  name : String
  inspector : Inspector
  /-- The kind that every failure is raised with, in place of its own. -/
  kind : Option ErrorKind

namespace Assertion

def ofInspector (name : String) (inspector : Inspector) : Assertion := ⟨name, inspector, none⟩

def withKind (a : Assertion) (kind : ErrorKind) : Assertion := { a with kind := some kind }

/-- The failure that is raised for a value, if it does not pass. -/
def check (a : Assertion) (v : Value) : Recorded (Option Failure) := do
  let report ← a.inspector.inspect v
  if report.passed then return none
  else
    let message ← report.message.read
    Failure.raise ⟨a.kind.getD report.kind, message, a.name⟩

theorem value_check (a : Assertion) (v : Value) :
    (a.check v).value =
      match (a.inspector.run v).value with
      | .pass => none
      | .fail kind message => some ⟨a.kind.getD kind, message.text, a.name⟩ := by
  unfold check
  cases h : (a.inspector.run v).value <;> simp [h, Report.passed, Report.kind, Report.message]

theorem value_ofInspector (name : String) (i : Inspector) (v : Value) :
    ((ofInspector name i).check v).value = (i.run v).value.raised? name := by
  rw [value_check, ofInspector]
  cases (i.run v).value <;> rfl

theorem events_check (a : Assertion) (v : Value) :
    (a.check v).events = (a.inspector.inspect v).events ++
      match (a.inspector.run v).value with
      | .pass => []
      | .fail kind message =>
        (if message.isReady then [] else [.formatted]) ++
          [.raised ⟨a.kind.getD kind, message.text, a.name⟩] := by
  unfold check
  cases h : (a.inspector.run v).value <;> simp [h, Report.passed, Report.kind, Report.message]

end Assertion

end Conform
