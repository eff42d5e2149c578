import Conform.Outline

/-! Sessions: operations on messages and reports that share one pool, one after the other. -/

namespace Conform

/-- A message or a report in somebody's hands. -/
inductive Held where
  | message (handle : Handle String)
  | report (report : HeldReport)

namespace Held

/-- The message that is held, or that of the report. -/
def handle : Held → Handle String
  | message handle => handle
  | report r => r.message

/-- Wraps a message, or the message of a report. -/
def wrap (x : Held) (f : String → String) (pool : Pool String) : Held × Pool String :=
  match x with
  | message handle =>
    let (handle, pool) := pool.map handle f
    (message handle, pool)
  | report r =>
    let (r, pool) := r.within f pool
    (report r, pool)

/-- The initializer of what wraps it. A report that passes is not wrapped. -/
def wrapper? (x : Held) (f : String → String) : Option (Initializer String) :=
  match x with
  | report .pass => none
  | x => some (.wrap f x.handle)

def outline (x : Held) (pool : Pool String) : String :=
  match x with
  | message handle => pool.messageOutline handle
  | report r => r.outline pool

end Held

/-- The initializer of a message that is put off. -/
def Message.initializer? : Message → Option (Initializer String)
  | fixed _ => none
  | deferred text => some (.compute text)

/-- An operation finds what it is about by its place among all that is held. -/
inductive Operation where
  | message (message : Message)
  | pass
  | fail (kind : ErrorKind) (place : Nat)
  | clone (place : Nat)
  | messageOf (place : Nat)
  | wrap (place : Nat) (f : String → String)
  | read (place : Nat)
  | isEvaluated (place : Nat)
  | outline (place : Nat)

/-- What is known of a session afterwards. -/
inductive Act where
  | made (handle : Handle String) (initializer : Initializer String)
  | read (handle : Handle String) (text : String)
  | asked (handle : Handle String) (evaluated : Bool)
  | outlined (handle : Handle String) (outline : String)

/-- The pool, all that was ever taken in hand, and the record of what was done, each in order. -/
structure Session where
  pool : Pool String
  held : List Held
  record : List Act

namespace Session

def start : Session := ⟨.empty, [], []⟩

/-- Takes something in hand that an initializer may have been put into the pool for. -/
def take (s : Session) (x : Held) (pool : Pool String) (initializer : Option (Initializer String)) :
    Session :=
  ⟨pool, s.held ++ [x], s.record ++ initializer.toList.map (.made x.handle)⟩

def note (s : Session) (act : Act) : Session := { s with record := s.record ++ [act] }

/-- Goes on with what is held at a place. Where nothing is held, nothing is done. -/
def withHeld (s : Session) (place : Nat) (use : Held → Option Session) : Option Session :=
  match s.held[place]? with
  | some x => use x
  | none => some s

/-- The session after an operation. There is none after a read that finds neither a text nor a way
to come to it. -/
def perform (s : Session) : Operation → Option Session
  | .message m =>
    let (handle, pool) := m.hold s.pool
    some (s.take (.message handle) pool m.initializer?)
  | .pass => some (s.take (.report .pass) s.pool none)
  | .fail kind place => s.withHeld place fun x =>
    some (s.take (.report (.fail kind x.handle)) s.pool none)
  | .clone place => s.withHeld place fun x => some (s.take x s.pool none)
  | .messageOf place => s.withHeld place fun x => some (s.take (.message x.handle) s.pool none)
  | .wrap place f => s.withHeld place fun x =>
    let (outer, pool) := x.wrap f s.pool
    some (s.take outer pool (x.wrapper? f))
  | .read place => s.withHeld place fun x =>
    (s.pool.read? x.handle).map fun (text, pool) =>
      { s with pool, record := s.record ++ [.read x.handle text] }
  | .isEvaluated place => s.withHeld place fun x =>
    some (s.note (.asked x.handle (s.pool.isEvaluated x.handle)))
  | .outline place => s.withHeld place fun x =>
    some (s.note (.outlined x.handle (x.outline s.pool)))

/-- The session that operations come to from the start. -/
def run (ops : List Operation) : Option Session := ops.foldlM perform start

end Session

end Conform
