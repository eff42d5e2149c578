import Conform.Prebuilt
import Conform.Report.Pool
import Conform.Text.Escaped

/-! Outlines: the structure of checkers, messages and reports written out for inspection. -/

namespace Conform

/-- A name with its fields, each a name and an outline. -/
def outlineOf (name : String) (fields : List (String × String)) : String :=
  let shown := fields.map fun field => field.1 ++ ": " ++ field.2
  name ++ " \x7b " ++ ", ".intercalate shown ++ " \x7d"

def ErrorKind.label : ErrorKind → String
  | typeError => "TypeError"
  | error => "Error"
  | notImplemented => "NotImplemented"

/-- Checkers do not show what they are made of. -/
def Validator.outline (_ : Validator) : String := "Validator(..)"

def Inspector.outline (_ : Inspector) : String := "Inspector(..)"

def Assertion.outline (a : Assertion) : String :=
  outlineOf "Assertion"
    [("name", Text.escaped a.name), ("inspector", a.inspector.outline),
      ("kind", match a.kind with | none => "None" | some kind => "Some(" ++ kind.label ++ ")")]

def Prebuilt.Validators.outline (v : Validators) : String :=
  outlineOf "Validators" (v.toList.map fun entry => (entry.1, entry.2.outline))

def Prebuilt.Assertions.outline (a : Assertions) : String :=
  outlineOf "Assertions" (a.toList.map fun entry => (entry.1, entry.2.outline))

/-- A deferred value shows only once it has been computed. -/
def Pool.outline {α : Type} (pool : Pool α) (write : α → String) : Handle α → String
  | .fixed value => write value
  | .cell index =>
    match pool.peek? (.cell index) with
    | some value => "Lazy(" ++ write value ++ ")"
    | none => "Lazy(<pending>)"

def Pool.messageOutline (pool : Pool String) (h : Handle String) : String :=
  "Message(" ++ pool.outline Text.escaped h ++ ")"

def HeldReport.outline (r : HeldReport) (pool : Pool String) : String :=
  outlineOf "Report"
    [("pass", if r.passed then "true" else "false"), ("kind", r.kind.label),
      ("message", pool.messageOutline r.message)]

end Conform
