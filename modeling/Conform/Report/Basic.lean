import Conform.Report.Message
import Conform.Rule.Violation

/-! Reports: what an inspection says about one value. -/

namespace Conform

inductive Report where
  | pass
  | fail (kind : ErrorKind) (message : Message)

namespace Report

def passed : Report → Bool
  | pass => true
  | fail _ _ => false

def kind : Report → ErrorKind
  | pass => .error
  | fail kind _ => kind

def message : Report → Message
  | pass => .fixed "passed"
  | fail _ message => message

def typeMismatch (text : Unit → String) : Report := fail .typeError (.defer text)

def constraint (text : Unit → String) : Report := fail .error (.defer text)

def ofBool (b : Bool) : Report := if b then pass else fail .error (.fixed "invalid value")

def ofViolation (v : Violation) : Report := fail v.kind (.defer fun _ => v.text)

def ofViolation? : Option Violation → Report
  | none => pass
  | some v => ofViolation v

/-- Says where a failure happened; a report that passes stays as it is. -/
def within (r : Report) (wrap : String → String) : Report :=
  match r with
  | pass => pass
  | fail kind message => fail kind (message.map wrap)

@[simp] theorem passed_ofBool (b : Bool) : (ofBool b).passed = b := by
  cases b <;> rfl

@[simp] theorem passed_ofViolation? (v : Option Violation) :
    (ofViolation? v).passed = v.isNone := by
  cases v <;> rfl

@[simp] theorem passed_within (r : Report) (wrap : String → String) :
    (r.within wrap).passed = r.passed := by
  cases r <;> rfl

@[simp] theorem kind_within (r : Report) (wrap : String → String) :
    (r.within wrap).kind = r.kind := by
  cases r <;> rfl

end Report

end Conform
