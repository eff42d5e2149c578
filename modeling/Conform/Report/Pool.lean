import Conform.Report.Basic

/-! Pools of deferred values that many hands share. A cell holds what will compute its value until
somebody reads it, and the value from then on. -/

namespace Conform

/-- A hold on a value: the value itself, or the cell that it will be found in. -/
inductive Handle (α : Type) where
  | fixed (value : α)
  | cell (index : Nat)

/-- How a cell comes to its value: by a computation of its own, or from another value. -/
inductive Initializer (α : Type) where
  | compute (value : Thunk α)
  | wrap (f : α → α) (inner : Handle α)

structure Cell (α : Type) where
  initializer : Option (Initializer α)
  value : Option α

/-- Cells in the order in which they were made, and the cells whose initializers have run, the
latest first. -/
structure Pool (α : Type) where
  cells : List (Cell α)
  runs : List Nat

namespace Pool

variable {α : Type}

def empty : Pool α := ⟨[], []⟩

def add (pool : Pool α) (initializer : Initializer α) : Handle α × Pool α :=
  (.cell pool.cells.length, { pool with cells := pool.cells ++ [⟨some initializer, none⟩] })

def defer (pool : Pool α) (value : Thunk α) : Handle α × Pool α := pool.add (.compute value)

/-- A deferred value that wraps another one. -/
def map (pool : Pool α) (h : Handle α) (f : α → α) : Handle α × Pool α := pool.add (.wrap f h)

/-- Takes the initializer of a cell away, and records that it runs. -/
def start (pool : Pool α) (index : Nat) : Pool α :=
  ⟨pool.cells.modify index fun cell => { cell with initializer := none }, index :: pool.runs⟩

def store (pool : Pool α) (index : Nat) (value : α) : Pool α :=
  { pool with cells := pool.cells.modify index fun cell => { cell with value := some value } }

/-- The value of a cell, computed now if it is not there yet. A cell that has neither a value nor
an initializer, or that wraps a cell made after it, has none. -/
def readCell? (pool : Pool α) (index : Nat) : Option (α × Pool α) := do
  let cell ← pool.cells[index]?
  match cell.value, cell.initializer with
  | some value, _ => some (value, pool)
  | none, none => none
  | none, some (.compute value) => some (value.get, (pool.start index).store index value.get)
  | none, some (.wrap f (.fixed value)) =>
    some (f value, (pool.start index).store index (f value))
  | none, some (.wrap f (.cell inner)) =>
    if inner < index then do
      let (value, pool) ← (pool.start index).readCell? inner
      some (f value, pool.store index (f value))
    else none
termination_by index

def read? (pool : Pool α) : Handle α → Option (α × Pool α)
  | .fixed value => some (value, pool)
  | .cell index => pool.readCell? index

/-- The value behind a handle, if it is there without a computation. -/
def peek? (pool : Pool α) : Handle α → Option α
  | .fixed value => some value
  | .cell index => pool.cells[index]?.bind (·.value)

def isEvaluated (pool : Pool α) (h : Handle α) : Bool := (pool.peek? h).isSome

end Pool

/-- A hold on a message. A message whose text is put off goes into a new cell. -/
def Message.hold (m : Message) (pool : Pool String) : Handle String × Pool String :=
  match m with
  | fixed text => (.fixed text, pool)
  | deferred text => pool.defer text

/-- A report whose message is held in a pool. -/
inductive HeldReport where
  | pass
  | fail (kind : ErrorKind) (message : Handle String)

namespace HeldReport

def passed : HeldReport → Bool
  | pass => true
  | fail _ _ => false

def kind : HeldReport → ErrorKind
  | pass => Report.pass.kind
  | fail kind _ => kind

def message : HeldReport → Handle String
  | pass => .fixed Report.pass.message.text
  | fail _ message => message

/-- Wraps the message of a failure; a report that passes stays as it is. -/
def within (r : HeldReport) (wrap : String → String) (pool : Pool String) :
    HeldReport × Pool String :=
  match r with
  | pass => (pass, pool)
  | fail kind message =>
    let (message, pool) := pool.map message wrap
    (fail kind message, pool)

end HeldReport

def Report.hold (r : Report) (pool : Pool String) : HeldReport × Pool String :=
  match r with
  | pass => (.pass, pool)
  | fail kind message =>
    let (message, pool) := message.hold pool
    (.fail kind message, pool)

end Conform
