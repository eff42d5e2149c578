import Conform.Event

/-! Runs that leave a record: the events of a run, in the order in which they happened. -/

namespace Conform

/-- A result, and the events on the way to it. -/
structure Recorded (α : Type) where
  value : α
  events : List Event

namespace Recorded

variable {α β : Type}

instance : Monad Recorded where
  pure a := ⟨a, []⟩
  bind x f := ⟨(f x.value).value, x.events ++ (f x.value).events⟩

def emit (e : Event) : Recorded Unit := ⟨(), [e]⟩

@[simp] theorem value_pure (a : α) : (pure a : Recorded α).value = a := rfl

@[simp] theorem events_pure (a : α) : (pure a : Recorded α).events = [] := rfl

@[simp] theorem value_bind (x : Recorded α) (f : α → Recorded β) :
    (x >>= f).value = (f x.value).value := rfl

@[simp] theorem events_bind (x : Recorded α) (f : α → Recorded β) :
    (x >>= f).events = x.events ++ (f x.value).events := rfl

@[simp] theorem value_map (f : α → β) (x : Recorded α) : (f <$> x).value = f x.value := rfl

@[simp] theorem events_map (f : α → β) (x : Recorded α) : (f <$> x).events = x.events :=
  List.append_nil x.events

@[simp] theorem value_emit (e : Event) : (emit e).value = () := rfl

@[simp] theorem events_emit (e : Event) : (emit e).events = [e] := rfl

@[ext] theorem ext {x y : Recorded α} (hv : x.value = y.value) (he : x.events = y.events) :
    x = y := by
  cases x
  cases y
  simp_all

instance : LawfulMonad Recorded where
  map_const := rfl
  id_map x := by
    apply ext
    · rfl
    · exact List.append_nil x.events
  seqLeft_eq x y := by
    apply ext
    · rfl
    · simp [SeqLeft.seqLeft, Seq.seq, Functor.map]
  seqRight_eq x y := by
    apply ext
    · rfl
    · simp [SeqRight.seqRight, Seq.seq, Functor.map]
  pure_seq f x := rfl
  bind_pure_comp f x := rfl
  bind_map f x := rfl
  pure_bind _ _ := rfl
  bind_assoc x f g := by
    apply ext
    · rfl
    · exact List.append_assoc _ _ _

end Recorded

theorem bind_eq_ok_iff {ε α β : Type} {x : Except ε α} {f : α → Except ε β} {b : β} :
    (x >>= f) = .ok b ↔ ∃ a, x = .ok a ∧ f a = .ok b := by
  cases x with
  | error e => simp [bind, Except.bind]
  | ok a => simp [bind, Except.bind]

/-- A build that may find no checker, with the record of its rejections. -/
abbrev Build := ExceptT ConfigError Recorded

/-- Records an error on its way to the caller of the build. -/
def Build.reject {α : Type} (e : ConfigError) : Build α := do
  Recorded.emit (.rejected e)
  throw e

/-- Takes an outcome, and rejects an error. -/
def Build.ofExcept {α : Type} : Except ConfigError α → Build α
  | .ok a => pure a
  | .error e => reject e

namespace Build

variable {α β : Type}

/-- What a build comes to, without its record. -/
def result (build : Build α) : Except ConfigError α := build.run.value

/-- The record of a build. -/
def events (build : Build α) : List Event := build.run.events

@[simp] theorem result_pure (a : α) : (pure a : Build α).result = .ok a := rfl

@[simp] theorem result_bind (build : Build α) (next : α → Build β) :
    (build >>= next).result = build.result >>= fun a => (next a).result := by
  change (ExceptT.bindCont next build.result : Recorded (Except ConfigError β)).value = _
  cases build.result <;> rfl

/-- A build that comes to something has come to something at each of its steps. -/
theorem exists_of_result_bind {build : Build α} {next : α → Build β} {b : β}
    (h : (build >>= next).result = .ok b) :
    ∃ a, build.result = .ok a ∧ (next a).result = .ok b := by
  rw [result_bind] at h
  exact bind_eq_ok_iff.mp h

@[simp] theorem result_ofExcept (outcome : Except ConfigError α) :
    (ofExcept outcome).result = outcome := by
  cases outcome <;> rfl

/-- A rejection is recorded where it happens: it is the same to reject at each of two steps, or
once for both. -/
theorem ofExcept_bind (outcome : Except ConfigError α) (next : α → Except ConfigError β) :
    (ofExcept outcome >>= fun a => ofExcept (next a)) = ofExcept (outcome >>= next) := by
  cases outcome <;> rfl

@[simp] theorem events_pure (a : α) : (pure a : Build α).events = [] := rfl

theorem events_bind_ok {build : Build α} {a : α} (h : build.result = .ok a) (next : α → Build β) :
    (build >>= next).events = build.events ++ (next a).events := by
  change (build.run >>= ExceptT.bindCont next).events = _
  rw [Recorded.events_bind, show build.run.value = .ok a from h]
  rfl

theorem events_bind_error {build : Build α} {e : ConfigError} (h : build.result = .error e)
    (next : α → Build β) : (build >>= next).events = build.events := by
  change (build.run >>= ExceptT.bindCont next).events = _
  rw [Recorded.events_bind, show build.run.value = .error e from h]
  exact List.append_nil _

end Build

end Conform
