import Conform.Proofs.Pool
import Conform.Session

/-! Sessions put each text together at most once, and only while it, or something that wraps it, is
read. -/

namespace Conform

namespace Session

variable {s s' : Session} {x : Held} {op : Operation} {record : List Act} {act : Act} {i : Nat}

/-- By the record, the cell was made with the initializer. -/
def Made (record : List Act) (i : Nat) (init : Initializer String) : Prop :=
  .made (.cell i) init ∈ record

/-- By the record, something that rests on the cell has been read. -/
def HasRead (record : List Act) (i : Nat) : Prop :=
  ∃ h text, .read h text ∈ record ∧ RestsOn (Made record) h i

/-- What was made is changed by making alone. -/
theorem made_append (hact : ∀ h init, act ≠ .made h init) :
    Made (record ++ [act]) = Made record := by
  funext i init
  have hne : Act.made (.cell i) init ≠ act := (hact _ _).symm
  simp [Made, hne]

theorem hasRead_append (hmade : ∀ h init, act ≠ .made h init)
    (hread : ∀ h text, act ≠ .read h text) :
    HasRead (record ++ [act]) i ↔ HasRead record i := by
  have hne (h : Handle String) (text : String) : Act.read h text ≠ act := (hread h text).symm
  simp [HasRead, made_append hmade, hne]

theorem made_append_read (h : Handle String) (text : String) :
    Made (record ++ [.read h text]) = Made record :=
  made_append nofun

/-- After a read there is read what was before, and all that the value rests on. -/
theorem hasRead_append_read {h : Handle String} {text : String} :
    HasRead (record ++ [.read h text]) i ↔ HasRead record i ∨ RestsOn (Made record) h i := by
  rw [HasRead, made_append_read]
  constructor
  · rintro ⟨h', text', hr, hrest⟩
    rcases List.mem_append.mp hr with hr | hr
    · exact .inl ⟨h', text', hr, hrest⟩
    · cases List.mem_singleton.mp hr
      exact .inr hrest
  · rintro (⟨h', text', hr, hrest⟩ | hrest)
    · exact ⟨h', text', List.mem_append_left _ hr, hrest⟩
    · exact ⟨h, text, by simp, hrest⟩

/-- The pool is sound by the record, what is held is held by the pool, reads came to what the
handles stand for, and the cells that have run are those that something read rests on. -/
structure Sound (s : Session) : Prop where
  pool : s.pool.Sound (Made s.record)
  held : ∀ x ∈ s.held, s.pool.Holds x.handle
  read : ∀ h text, .read h text ∈ s.record → s.pool.Holds h ∧ StandsFor (Made s.record) h text
  runs : ∀ i, i ∈ s.pool.runs ↔ HasRead s.record i

/-- All that an operation can do to a session. -/
inductive Step (s : Session) (op : Operation) : Session → Prop where
  | idle : Step s op s
  | noted {act : Act} : (∀ h init, act ≠ .made h init) → (∀ h text, act ≠ .read h text) →
      Step s op (s.note act)
  | taken {x : Held} : s.pool.Holds x.handle → Step s op { s with held := s.held ++ [x] }
  | made {x : Held} {init : Initializer String} : x.handle = .cell s.pool.cells.length →
      (∀ f h, init = .wrap f h → s.pool.Holds h) →
      Step s op ⟨(s.pool.add init).2, s.held ++ [x], s.record ++ [.made x.handle init]⟩
  | read {place : Nat} {x : Held} {text : String} {pool : Pool String} : op = .read place →
      s.held[place]? = some x → StandsFor (Made s.record) x.handle text →
      s.pool.Filled (Made s.record) x.handle pool →
      Step s op { s with pool, record := s.record ++ [.read x.handle text] }

theorem take_none (s : Session) (x : Held) :
    s.take x s.pool none = { s with held := s.held ++ [x] } := by
  simp [take]

theorem sound_start : start.Sound where
  pool := by
    have hmade : Made start.record = fun _ _ => False := by
      funext i init
      simp [Made, start]
    rw [hmade]
    exact .empty
  held _ hx := absurd hx List.not_mem_nil
  read _ _ hr := absurd hr List.not_mem_nil
  runs i := by simp [start, Pool.empty, HasRead]

namespace Sound

/-- What a session holds is in its pool. -/
theorem holds (hs : s.Sound) {place : Nat} (hx : s.held[place]? = some x) :
    s.pool.Holds x.handle :=
  hs.held x (List.mem_of_getElem? hx)

theorem exists_withHeld (hs : s.Sound) {place : Nat} {use : Held → Option Session}
    (huse : ∀ x, s.held[place]? = some x → s.pool.Holds x.handle →
      ∃ s', use x = some s' ∧ s.Step op s') :
    ∃ s', s.withHeld place use = some s' ∧ s.Step op s' := by
  unfold withHeld
  cases hx : s.held[place]? with
  | some x => exact huse x hx (hs.holds hx)
  | none => exact ⟨s, rfl, .idle⟩

/-- Every operation can be performed, and does one of the things in the list. -/
theorem exists_step (hs : s.Sound) (op : Operation) :
    ∃ s', s.perform op = some s' ∧ s.Step op s' := by
  cases op with
  | message m =>
    cases m with
    -- Nothing is made of a text that is there already.
    | fixed text => exact ⟨_, congrArg some (s.take_none _), .taken trivial⟩
    | deferred text => exact ⟨_, rfl, .made rfl nofun⟩
  | pass => exact ⟨_, congrArg some (s.take_none _), .taken trivial⟩
  | fail kind place | clone place | messageOf place =>
    refine hs.exists_withHeld fun x _ hh => ⟨_, congrArg some (s.take_none _), .taken ?_⟩
    exact hh
  | wrap place f =>
    refine hs.exists_withHeld fun x _ hh => ?_
    have hinit : ∀ g h, Initializer.wrap f x.handle = .wrap g h → s.pool.Holds h := by
      rintro g h ⟨⟩
      exact hh
    cases x with
    | message h => exact ⟨_, rfl, .made rfl hinit⟩
    | report r =>
      cases r with
      | pass => exact ⟨_, congrArg some (s.take_none _), .taken trivial⟩
      | fail kind h => exact ⟨_, rfl, .made rfl hinit⟩
  | read place =>
    refine hs.exists_withHeld fun x hx hh => ?_
    obtain ⟨text, pool, hread, htext, hf⟩ := hs.pool.read?_filled hh
    exact ⟨_, by rw [hread]; rfl, .read rfl hx htext hf⟩
  | isEvaluated place | outline place =>
    exact hs.exists_withHeld fun x _ _ => ⟨_, rfl, .noted nofun nofun⟩

theorem note (hs : s.Sound) (hmade : ∀ h init, act ≠ .made h init)
    (hread : ∀ h text, act ≠ .read h text) : (s.note act).Sound where
  pool := by
    rw [Session.note, made_append hmade]
    exact hs.pool
  held := hs.held
  read h text hr := by
    rw [Session.note, made_append hmade]
    rcases List.mem_append.mp hr with hr | hr
    · exact hs.read h text hr
    · exact absurd (List.mem_singleton.mp hr).symm (hread h text)
  runs i := (hs.runs i).trans (hasRead_append hmade hread).symm

theorem take (hs : s.Sound) (hx : s.pool.Holds x.handle) :
    Session.Sound { s with held := s.held ++ [x] } where
  pool := hs.pool
  held y hy := by
    rcases List.mem_append.mp hy with hy | hy
    · exact hs.held y hy
    · obtain rfl := List.mem_singleton.mp hy
      exact hx
  read := hs.read
  runs := hs.runs

theorem make (hs : s.Sound) {init : Initializer String}
    (hx : x.handle = .cell s.pool.cells.length)
    (hinit : ∀ f h, init = .wrap f h → s.pool.Holds h) :
    Session.Sound
      ⟨(s.pool.add init).2, s.held ++ [x], s.record ++ [.made x.handle init]⟩ := by
  have hadd : ∀ i y, Made (s.record ++ [.made x.handle init]) i y ↔
      Made s.record i y ∨ i = s.pool.cells.length ∧ y = init := by
    intro i y
    simp [Made, hx]
  have hread : ∀ h text, .read h text ∈ s.record ++ [.made x.handle init] ↔
      .read h text ∈ s.record := by
    intro h text
    simp
  refine ⟨hs.pool.add hadd hinit, ?_, ?_, ?_⟩
  · intro y hy
    rcases List.mem_append.mp hy with hy | hy
    · exact (hs.held y hy).add init
    · obtain rfl := List.mem_singleton.mp hy
      rw [hx]
      exact s.pool.holds_add init
  · intro h text hr
    obtain ⟨hh, htext⟩ := hs.read h text ((hread h text).mp hr)
    exact ⟨hh.add init, htext.mono fun i y hm => (hadd i y).mpr (.inl hm)⟩
  · intro i
    refine (hs.runs i).trans (exists₂_congr fun h text => ?_)
    rw [hread]
    refine and_congr_right fun hr => ?_
    exact (hs.pool.restsOn_add hadd (hs.read h text hr).1).symm

theorem fill (hs : s.Sound) {text : String} {pool : Pool String} (hx : s.pool.Holds x.handle)
    (htext : StandsFor (Made s.record) x.handle text)
    (hf : s.pool.Filled (Made s.record) x.handle pool) :
    Session.Sound { s with pool, record := s.record ++ [.read x.handle text] } where
  pool := by
    rw [made_append_read]
    exact hs.pool.filled hx hf
  held y hy := (hs.held y hy).of_length hf.length
  read h t hr := by
    rw [made_append_read]
    rcases List.mem_append.mp hr with hr | hr
    · obtain ⟨hh, ht⟩ := hs.read h t hr
      exact ⟨hh.of_length hf.length, ht⟩
    · cases List.mem_singleton.mp hr
      exact ⟨hx.of_length hf.length, htext⟩
  runs i := by
    rw [hf.mem_runs_iff, hs.runs, hasRead_append_read]

/-- Every step leaves a sound session sound. -/
theorem step (hs : s.Sound) (h : s.Step op s') : s'.Sound := by
  cases h with
  | idle => exact hs
  | noted hmade hread => exact hs.note hmade hread
  | taken hx => exact hs.take hx
  | made hx hinit => exact hs.make hx hinit
  | read _ hx htext hf => exact hs.fill (hs.holds hx) htext hf

/-- Sessions stay sound, whatever is done in them, and never come to a stop. -/
theorem exists_run (hs : s.Sound) (ops : List Operation) :
    ∃ s', ops.foldlM perform s = some s' ∧ s'.Sound := by
  induction ops generalizing s with
  | nil => exact ⟨s, rfl, hs⟩
  | cons op rest ih =>
    obtain ⟨s', hperform, hstep⟩ := hs.exists_step op
    obtain ⟨s'', hrun, hs''⟩ := ih (hs.step hstep)
    refine ⟨s'', ?_, hs''⟩
    rw [List.foldlM_cons, hperform]
    exact hrun

end Sound

namespace Step

/-- A cell that was run stays so. -/
theorem mem_runs (h : s.Step op s') (hi : i ∈ s.pool.runs) : i ∈ s'.pool.runs := by
  cases h with
  | read _ _ _ hf => exact hf.mem_runs_iff.mpr (.inl hi)
  | idle | noted _ _ | taken _ | made _ _ => exact hi

/-- A cell is run by nothing but reading what rests on it. -/
theorem exists_read (h : s.Step op s') (hi : i ∈ s'.pool.runs) (hnot : i ∉ s.pool.runs) :
    ∃ place x, op = .read place ∧ s.held[place]? = some x ∧
      RestsOn (Made s.record) x.handle i := by
  cases h with
  | read hop hx _ hf => exact ⟨_, _, hop, hx, (hf.mem_runs_iff.mp hi).resolve_left hnot⟩
  | idle | noted _ _ | taken _ | made _ _ => exact absurd hi hnot

end Step

/-- Queries and outlines leave the pool as it is. -/
theorem pool_of_query {place : Nat} (hop : op = .isEvaluated place ∨ op = .outline place)
    (h : s.perform op = some s') : s'.pool = s.pool := by
  rcases hop with rfl | rfl
  all_goals
    rw [perform, withHeld] at h
    cases hx : s.held[place]? with
    | none =>
      rw [hx] at h
      cases h
      rfl
    | some x =>
      rw [hx] at h
      cases h
      rfl

theorem withHeld_of_some {place : Nat} (hx : s.held[place]? = some x)
    (use : Held → Option Session) : s.withHeld place use = use x := by
  rw [withHeld, hx]

theorem held_of_clone {place : Nat} (hx : s.held[place]? = some x)
    (h : s.perform (.clone place) = some s') : s'.held = s.held ++ [x] := by
  rw [perform, withHeld_of_some hx] at h
  cases h
  rfl

/-- What wraps a message stands for the text that the message stands for, wrapped. -/
theorem standsFor_of_wrap {place : Nat} {f : String → String} (hx : s.held[place]? = some x)
    (h : s.perform (.wrap place f) = some s') :
    ∃ y, s'.held = s.held ++ [y] ∧ (y = x ∧ x = .report .pass ∨
      ∀ text, StandsFor (Made s.record) x.handle text →
        StandsFor (Made s'.record) y.handle (f text)) := by
  rw [perform, withHeld_of_some hx] at h
  have hmade {inner : Handle String} {n : Nat} (text : String)
      (htext : StandsFor (Made s.record) inner text) :
      StandsFor (Made (s.record ++ [.made (.cell n) (.wrap f inner)])) (.cell n) (f text) := by
    refine .wrapped (List.mem_append_right _ (List.mem_singleton_self _)) (htext.mono ?_)
    intro i init hm
    exact List.mem_append_left _ hm
  cases x with
  | message inner =>
    cases h
    exact ⟨_, rfl, .inr hmade⟩
  | report r =>
    cases r with
    | pass =>
      cases h
      exact ⟨_, rfl, .inl ⟨rfl, rfl⟩⟩
    | fail kind inner =>
      cases h
      exact ⟨_, rfl, .inr hmade⟩

/-- What holds of an operation, whatever was done before it. -/
structure Continues (s : Session) (op : Operation) (s' : Session) : Prop where
  /-- What is there to read stays there. -/
  evaluated : ∀ h, s.pool.isEvaluated h = true → s'.pool.isEvaluated h = true
  /-- An initializer runs in a read of something that rests on its cell, and in nothing else. -/
  runs : ∀ i ∈ s'.pool.runs, i ∉ s.pool.runs → ∃ place x,
    op = .read place ∧ s.held[place]? = some x ∧ RestsOn (Made s.record) x.handle i
  /-- Asking whether a text is there, or for an outline, changes nothing in the pool. -/
  query : ∀ place, op = .isEvaluated place ∨ op = .outline place → s'.pool = s.pool
  /-- A clone has the handle of what it was cloned from. -/
  clone : ∀ place x, op = .clone place → s.held[place]? = some x → s'.held = s.held ++ [x]
  /-- What wraps a message stands for its text, wrapped. A report that passes is not wrapped. -/
  wrap : ∀ place x f, op = .wrap place f → s.held[place]? = some x →
    ∃ y, s'.held = s.held ++ [y] ∧ (y = x ∧ x = .report .pass ∨
      ∀ text, StandsFor (Made s.record) x.handle text →
        StandsFor (Made s'.record) y.handle (f text))

/-- A message counts as evaluated if it needs no evaluation, or has been read. -/
theorem isEvaluated_iff (hs : s.Sound) (h : Handle String) : s.pool.isEvaluated h = true ↔
    (∃ text, h = .fixed text) ∨ ∃ i, h = .cell i ∧ HasRead s.record i := by
  cases h with
  | fixed text => simp [Pool.isEvaluated, Pool.peek?]
  | cell i => simp [hs.pool.isEvaluated_cell, hs.runs]

/-- Whatever is done in a session, no read comes to a stop, no initializer runs twice, and those
that have run are those that something read rests on. A text is there to read exactly when it is
fixed or has been read in this way, and a read says what its handle stands for. -/
theorem texts_are_formed_once (ops : List Operation) :
    ∃ s, run ops = some s ∧ s.pool.runs.Nodup ∧
      (∀ i, i ∈ s.pool.runs ↔ HasRead s.record i) ∧
      (∀ h, s.pool.isEvaluated h = true ↔
        (∃ text, h = .fixed text) ∨ ∃ i, h = .cell i ∧ HasRead s.record i) ∧
      (∀ h text, .read h text ∈ s.record →
        ∀ other, StandsFor (Made s.record) h other ↔ other = text) ∧
      ∀ op, ∃ s', s.perform op = some s' ∧ s.Continues op s' := by
  obtain ⟨s, hrun, hs⟩ := sound_start.exists_run ops
  refine ⟨s, hrun, hs.pool.nodup, hs.runs, isEvaluated_iff hs, ?_, fun op => ?_⟩
  · intro h text hr other
    have htext := (hs.read h text hr).2
    refine ⟨fun hother => hs.pool.grounded.standsFor_unique hother htext, ?_⟩
    rintro rfl
    exact htext
  · obtain ⟨s', hperform, hstep⟩ := hs.exists_step op
    refine ⟨s', hperform, ?_, fun i => hstep.exists_read, ?_, ?_, ?_⟩
    · intro h he
      cases h with
      | fixed text => rfl
      | cell i =>
        have hi := hstep.mem_runs (hs.pool.isEvaluated_cell.mp he)
        exact (hs.step hstep).pool.isEvaluated_cell.mpr hi
    · exact fun place hop => pool_of_query hop hperform
    · rintro place x rfl hx
      exact held_of_clone hx hperform
    · rintro place x f rfl hx
      exact standsFor_of_wrap hx hperform

/-- A message, what wraps it, and a read of that. -/
def wrapped : List Operation := [.message (.defer fun _ => "b"), .wrap 0 ("a" ++ ·), .read 1]

/-- The read comes to the text of the message, wrapped. -/
theorem getLast?_record_wrapped {s : Session} (h : run wrapped = some s) :
    s.record.getLast? = some (.read (.cell 1) ("a" ++ "b")) := by
  obtain ⟨unread, hunread⟩ : ∃ unread, (wrapped.take 2).foldlM perform start = some unread :=
    ⟨_, rfl⟩
  have hinner : (unread.pool.start 1).cells[0]? =
      some ⟨some (.compute (Thunk.mk fun _ => "b")), none⟩ := by
    cases hunread
    rfl
  have houter : unread.pool.cells[1]? = some ⟨some (.wrap ("a" ++ ·) (.cell 0)), none⟩ := by
    cases hunread
    rfl
  have hrun : run wrapped = ((unread.pool.readCell? 1).map fun read =>
      ⟨read.2, unread.held, unread.record ++ [.read (.cell 1) read.1]⟩).bind some := by
    cases hunread
    rfl
  rw [hrun, Pool.readCell?_of_wrap_cell houter Nat.one_pos
    (Pool.readCell?_of_compute hinner)] at h
  cases h
  exact List.getLast?_concat

theorem texts_are_formed_once_wrapped :
    ∃ s, run wrapped = some s ∧ s.pool.runs.Nodup ∧ .read (.cell 1) ("a" ++ "b") ∈ s.record ∧
      ∀ other, StandsFor (Made s.record) (.cell 1) other ↔ other = "a" ++ "b" := by
  obtain ⟨s, hrun, hnodup, -, -, hread, -⟩ := texts_are_formed_once wrapped
  have hmem : .read (.cell 1) ("a" ++ "b") ∈ s.record :=
    List.mem_of_getLast? (getLast?_record_wrapped hrun)
  exact ⟨s, hrun, hnodup, hmem, hread _ _ hmem⟩

-- To read what wraps a message is to read the message, whose text is then there for later reads.
example : (run (wrapped ++ [.read 0])).map (·.pool.runs) = some [0, 1] := by
  cbv

end Session

end Conform
