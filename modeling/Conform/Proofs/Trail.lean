import Conform.Proofs.Tree

/-! Trails: the steps from a tree of inspectors and a value to the first node that fails on its own,
and the message that they spell. -/

namespace Conform

/-- The report is a failure of the kind, and reads as the text. -/
def Report.FailsWith (r : Report) (kind : ErrorKind) (text : String) : Prop :=
  ∃ message, r = .fail kind message ∧ message.text = text

namespace Report.FailsWith

variable {r : Report} {kind : ErrorKind} {text : String}

theorem within (h : r.FailsWith kind text) (wrap : String → String) :
    (r.within wrap).FailsWith kind (wrap text) := by
  obtain ⟨message, rfl, rfl⟩ := h
  exact ⟨message.map wrap, rfl, rfl⟩

theorem kind_eq (h : r.FailsWith kind text) : r.kind = kind := by
  obtain ⟨message, rfl, -⟩ := h
  rfl

theorem text_eq (h : r.FailsWith kind text) : r.message.text = text := by
  obtain ⟨message, rfl, ht⟩ := h
  exact ht

end Report.FailsWith

/-- An assertion raises what the report of its inspector says. -/
theorem Assertion.value_ofInspector_of_failsWith {i : Inspector} {v : Value} {kind : ErrorKind}
    {text : String} (h : (i.run v).value.FailsWith kind text) (name : String) :
    ((ofInspector name i).check v).value = some ⟨kind, text, name⟩ := by
  obtain ⟨message, hr, rfl⟩ := h
  rw [value_ofInspector, hr, Report.raised?]

namespace Inspector

/-- A step from a node to one right below it. -/
inductive Step where
  | part (index : Nat)
  | alternative (index : Nat)
  | present
  | element (index : Nat)
  | property (name : String)

namespace Step

/-- What a step says in a message. -/
def text : Step → String
  | alternative _ => "no alternative matched, last: "
  | element index => "for index " ++ Nat.repr index ++ ", "
  | property name => "for property " ++ name ++ ", "
  | part _ | present => ""

/-- A trail is spelled from its first step on. -/
theorem spell_cons (step : Step) (steps : List Step) (text : String) :
    String.join ((step :: steps).map Step.text) ++ text =
      step.text ++ (String.join (steps.map Step.text) ++ text) := by
  rw [List.map_cons, String.join_cons, String.append_assoc]

/-- What a step reads of a value. -/
def read? (v : Value) : Step → Option Value
  | element index => v.items?.bind (·[index]?)
  | property name => some (v.property name)
  | part _ | alternative _ | present => some v

end Step

namespace Tree

def report (t : Tree) (v : Value) : Report := (t.inspector.run v).value

def passes (t : Tree) (v : Value) : Bool := (t.report v).passed

/-- What breaking a rule says. -/
def said (x : Violation) : ErrorKind × String := (x.kind, x.text)

/-- What a node has against a value on its own account: as a leaf, by type, null or length, or for
want of an alternative. -/
def complaint? : Tree → Value → Option (ErrorKind × String)
  | leaf i, v =>
    match (i.run v).value with
    | .pass => none
    | .fail kind message => some (kind, message.text)
  | any [], _ => some (.error, "expected at least one alternative")
  | array length _, .array _ items => (length.violation? items.length).map said
  | array _ _, v => some (said (.wrongType "array" v.datatype))
  | object nullable _, v =>
    if v.datatype = .object then
      if v.isNull && !nullable then some (said .isNull) else none
    else some (said (.wrongType "object" v.datatype))
  | all _, _ | any (_ :: _), _ | optional _, _ => none

/-- From the first tree and value the steps lead to a node and to the value that it fails on. Each
step goes to the first child that fails, or to the last alternative if all of them fail. -/
inductive FailsAlong : Tree → Value → List Step → Tree → Value → Prop where
  | here {t : Tree} {v : Value} {complaint : ErrorKind × String} :
      t.complaint? v = some complaint → FailsAlong t v [] t v
  | part {parts before : List Tree} {t node : Tree} {v place : Value} {steps : List Step} :
      FirstFailure (·.passes v) parts before t → FailsAlong t v steps node place →
      FailsAlong (all parts) v (.part before.length :: steps) node place
  | alternative {alternatives before : List Tree} {t node : Tree} {v place : Value}
      {steps : List Step} :
      (∀ u ∈ alternatives, u.passes v = false) → alternatives = before ++ [t] →
      FailsAlong t v steps node place →
      FailsAlong (any alternatives) v (.alternative before.length :: steps) node place
  | present {t node : Tree} {v place : Value} {steps : List Step} :
      v.isNullish = false → FailsAlong t v steps node place →
      FailsAlong (optional t) v (.present :: steps) node place
  | element {length : LengthRule} {t node : Tree} {id : Nat} {items before : List Value}
      {w place : Value} {steps : List Step} :
      length.violation? items.length = none → FirstFailure t.passes items before w →
      FailsAlong t w steps node place →
      FailsAlong (array length (some t)) (.array id items) (.element before.length :: steps) node
        place
  | property {nullable : Bool} {properties before : List (String × Tree)} {name : String}
      {t node : Tree} {v place : Value} {steps : List Step} :
      v.isObject = true →
      FirstFailure (fun p => p.2.passes (v.property p.1)) properties before (name, t) →
      FailsAlong t (v.property name) steps node place →
      FailsAlong (object nullable properties) v (.property name :: steps) node place

variable {v : Value}

theorem report_all_of_pass {parts : List Tree} (h : ∀ t ∈ parts, t.passes v = true) :
    (all parts).report v = .pass := by
  rw [report, inspector_all]
  exact all_of_pass (List.forall_mem_map.mpr h)

theorem firstFailure_of_all {parts : List Tree} (h : (all parts).passes v = false) :
    ∃ before t, FirstFailure (·.passes v) parts before t := by
  apply FirstFailure.exists_of_not_forall
  intro hall
  rw [passes, report_all_of_pass hall] at h
  cases h

/-- A conjunction reports the first of its parts that fails, as it is. -/
theorem report_all {parts before : List Tree} {t : Tree}
    (h : FirstFailure (·.passes v) parts before t) : (all parts).report v = t.report v := by
  rw [report, inspector_all]
  exact all_of_firstFailure (h.map inspector)

theorem report_any {alternatives before : List Tree} {t : Tree}
    (h : ∀ u ∈ alternatives, u.passes v = false) (hlast : alternatives = before ++ [t]) :
    (any alternatives).report v =
      (t.report v).within ("no alternative matched, last: " ++ ·) := by
  subst hlast
  rw [report, inspector_any, List.map_append]
  apply any_go_of_fail
  · intro i hi
    obtain ⟨u, hu, rfl⟩ := List.mem_map.mp hi
    exact h u (List.mem_append_left _ hu)
  · exact h t (by simp)

theorem fails_of_any {alternatives : List Tree} (h : (any alternatives).passes v = false) :
    ∀ t ∈ alternatives, t.passes v = false := by
  intro t ht
  cases hp : t.passes v with
  | false => rfl
  | true =>
    rw [passes, report, inspector_any] at h
    have hany := passed_any_of_mem (List.mem_map_of_mem ht) hp
      (.constraint fun _ => "expected at least one alternative")
    exact (Bool.false_ne_true (h.symm.trans hany)).elim

theorem report_optional (t : Tree) :
    (optional t).report v = if v.isNullish then .pass else t.report v :=
  value_optional t.inspector

theorem report_array_of_pass {length : LengthRule} {element : Option Tree} {id : Nat}
    {items : List Value} (hlen : length.violation? items.length = none)
    (h : ∀ t ∈ element, ∀ w ∈ items, t.passes w = true) :
    (array length element).report (.array id items) = .pass := by
  rw [report, inspector_array]
  refine arrayWith_of_pass hlen ?_
  intro i hi w hw
  obtain ⟨t, ht, rfl⟩ := Option.map_eq_some_iff.mp hi
  exact h t ht w hw

theorem firstFailure_of_array {length : LengthRule} {element : Option Tree} {id : Nat}
    {items : List Value} (hlen : length.violation? items.length = none)
    (h : (array length element).passes (.array id items) = false) :
    ∃ t ∈ element, ∃ before w, FirstFailure t.passes items before w := by
  cases element with
  | none =>
    rw [passes, report_array_of_pass hlen (by simp)] at h
    cases h
  | some t =>
    refine ⟨t, rfl, FirstFailure.exists_of_not_forall ?_⟩
    intro hall
    rw [passes, report_array_of_pass hlen (by simpa using hall)] at h
    cases h

/-- An array is reported for its first element that fails, under the index. -/
theorem report_array {length : LengthRule} {t : Tree} {id : Nat} {items before : List Value}
    {w : Value} (hlen : length.violation? items.length = none)
    (h : FirstFailure t.passes items before w) :
    (array length (some t)).report (.array id items) =
      (t.report w).within ("for index " ++ Nat.repr before.length ++ ", " ++ ·) :=
  arrayWith_of_firstFailure hlen h

theorem report_object_of_pass {nullable : Bool} {properties : List (String × Tree)}
    (hv : v.isObject = true) (h : ∀ p ∈ properties, p.2.passes (v.property p.1) = true) :
    (object nullable properties).report v = .pass := by
  rw [report, inspector_object]
  exact object_of_pass hv (List.forall_mem_map.mpr h)

theorem firstFailure_of_object {nullable : Bool} {properties : List (String × Tree)}
    (hv : v.isObject = true) (h : (object nullable properties).passes v = false) :
    ∃ before name t,
      FirstFailure (fun p => p.2.passes (v.property p.1)) properties before (name, t) := by
  have hex : ∃ before p,
      FirstFailure (fun p => p.2.passes (v.property p.1)) properties before p := by
    apply FirstFailure.exists_of_not_forall
    intro hall
    rw [passes, report_object_of_pass hv hall] at h
    cases h
  obtain ⟨before, ⟨name, t⟩, hfirst⟩ := hex
  exact ⟨before, name, t, hfirst⟩

/-- An object is reported for its first property that fails, under the name. -/
theorem report_object {nullable : Bool} {properties before : List (String × Tree)} {name : String}
    {t : Tree} (hv : v.isObject = true)
    (h : FirstFailure (fun p => p.2.passes (v.property p.1)) properties before (name, t)) :
    (object nullable properties).report v =
      (t.report (v.property name)).within ("for property " ++ name ++ ", " ++ ·) := by
  have hfirst : FirstFailure (fun p => (p.2.run (v.property p.1)).value.passed)
      (properties.map entry) (before.map entry) (entry (name, t)) :=
    h.map entry
  rw [report, inspector_object]
  exact object_of_firstFailure hv hfirst

/-- Of an object node that fails without a complaint, a property fails. -/
theorem isObject_of_complaint?_eq_none {nullable : Bool} {properties : List (String × Tree)}
    (hc : (object nullable properties).complaint? v = none)
    (h : (object nullable properties).passes v = false) : v.isObject = true := by
  rw [complaint?] at hc
  by_cases htype : v.datatype = .object
  · cases hnull : v.isNull with
    | false => exact Value.isObject_iff.mpr ⟨htype, hnull⟩
    | true =>
      cases nullable with
      | false => simp [htype, hnull] at hc
      | true =>
        simp [passes, report, inspector_object, Inspector.object, htype, hnull, Report.passed] at h
  · simp [htype] at hc

theorem failsWith_ofViolation {x : Violation} {kind : ErrorKind} {text : String}
    (h : said x = (kind, text)) : (Report.ofViolation x).FailsWith kind text := by
  cases h
  exact ⟨_, rfl, rfl⟩

/-- A node that fails on its own reports its own complaint. -/
theorem report_of_complaint {t : Tree} {kind : ErrorKind} {text : String}
    (h : t.complaint? v = some (kind, text)) : (t.report v).FailsWith kind text := by
  cases t with
  | leaf i =>
    change (match (i.run v).value with | .pass => none | .fail kind message => _) = _ at h
    cases hr : (i.run v).value with
    | pass =>
      rw [hr] at h
      cases h
    | fail kind message =>
      rw [hr] at h
      cases h
      exact ⟨message, hr, rfl⟩
  | any alternatives =>
    cases alternatives with
    | nil =>
      cases h
      exact ⟨_, rfl, rfl⟩
    | cons t rest => cases h
  | array length element =>
    cases v with
    | array id items =>
      obtain ⟨x, hx, hs⟩ := Option.map_eq_some_iff.mp h
      rw [report, inspector_array, arrayWith_of_violation hx]
      exact failsWith_ofViolation hs
    | _ => exact failsWith_ofViolation (Option.some.inj h)
  | object nullable properties =>
    simp only [complaint?] at h
    simp only [report, inspector_object, Inspector.object]
    by_cases htype : v.datatype = .object
    · rw [if_pos htype] at h ⊢
      cases hnull : v.isNull with
      | true =>
        cases nullable with
        | true => simp [hnull] at h
        | false =>
          simp only [hnull] at h
          exact failsWith_ofViolation (Option.some.inj h)
      | false => simp [hnull] at h
    · rw [if_neg htype] at h ⊢
      exact failsWith_ofViolation (Option.some.inj h)
  | all _ | optional _ => cases h

namespace FailsAlong

variable {t node : Tree} {place : Value} {steps : List Step}

/-- The message spells the steps, outermost first, and then what the node says; the kind is that of
the node. -/
theorem failsWith {kind : ErrorKind} {text : String} (h : FailsAlong t v steps node place)
    (hc : node.complaint? place = some (kind, text)) :
    (t.report v).FailsWith kind (String.join (steps.map Step.text) ++ text) := by
  induction h with
  | here _ =>
    rw [List.map_nil, String.join_nil, String.empty_append]
    exact report_of_complaint hc
  | part hfirst _ ih =>
    rw [report_all hfirst, Step.spell_cons]
    exact String.empty_append ▸ ih hc
  | alternative hfail hlast _ ih =>
    rw [report_any hfail hlast, Step.spell_cons]
    exact (ih hc).within _
  | present hn _ ih =>
    rw [report_optional, if_neg (by simp [hn]), Step.spell_cons]
    exact String.empty_append ▸ ih hc
  | element hlen hfirst _ ih =>
    rw [report_array hlen hfirst, Step.spell_cons]
    exact (ih hc).within _
  | property hobject hfirst _ ih =>
    rw [report_object hobject hfirst, Step.spell_cons]
    exact (ih hc).within _

theorem exists_complaint (h : FailsAlong t v steps node place) :
    ∃ complaint, node.complaint? place = some complaint := by
  induction h with
  | here hc => exact ⟨_, hc⟩
  | part _ _ ih | alternative _ _ _ ih | present _ _ ih | element _ _ _ ih
  | property _ _ _ ih => exact ih

theorem passes_eq_false (h : FailsAlong t v steps node place) : t.passes v = false := by
  obtain ⟨⟨kind, text⟩, hc⟩ := h.exists_complaint
  obtain ⟨message, hr, -⟩ := h.failsWith hc
  rw [passes, hr, Report.passed]

/-- A node that fails further down has no complaint of its own. -/
theorem complaint?_eq_none {step : Step} (h : FailsAlong t v (step :: steps) node place) :
    t.complaint? v = none := by
  cases h with
  | part _ _ | present _ _ => rfl
  | @alternative alternatives before t _ _ _ _ _ hlast _ =>
    subst hlast
    cases before <;> rfl
  | element hlen _ _ => exact congrArg (Option.map said) hlen
  | property hobject _ _ =>
    obtain ⟨htype, hnull⟩ := Value.isObject_iff.mp hobject
    simp [complaint?, htype, hnull]

theorem reads (h : FailsAlong t v steps node place) :
    steps.foldlM Step.read? v = some place := by
  induction h with
  | here _ => rfl
  | part _ _ ih | alternative _ _ _ ih | present _ _ ih | property _ _ _ ih => exact ih
  | @element length t node id items before w place steps hlen hfirst _ ih =>
    rw [List.foldlM_cons]
    simp [Step.read?, Value.items?, hfirst.getElem?_length, ih]

/-- There is one way along which a tree fails. -/
theorem unique {node' : Tree} {place' : Value} {steps' : List Step}
    (h : FailsAlong t v steps node place) (h' : FailsAlong t v steps' node' place') :
    steps' = steps ∧ node' = node ∧ place' = place := by
  -- Where one trail stops the other cannot go on, since a node that fails on its own has no
  -- failing part to go on to.
  induction h generalizing steps' with
  | here hc =>
    cases steps' with
    | nil =>
      cases h'
      exact ⟨rfl, rfl, rfl⟩
    | cons step steps' => cases h'.complaint?_eq_none.symm.trans hc
  | part hfirst _ ih =>
    cases h' with
    | here hc => cases hc
    | part hfirst' hrest =>
      obtain ⟨rfl, rfl⟩ := hfirst.unique hfirst'
      obtain ⟨rfl, rfl, rfl⟩ := ih hrest
      exact ⟨rfl, rfl, rfl⟩
  | alternative hfail hlast h ih =>
    cases h' with
    | here hc => cases (alternative hfail hlast h).complaint?_eq_none.symm.trans hc
    | alternative _ hlast' hrest =>
      obtain ⟨rfl, ht⟩ := List.append_inj' (hlast'.symm.trans hlast) rfl
      cases ht
      obtain ⟨rfl, rfl, rfl⟩ := ih hrest
      exact ⟨rfl, rfl, rfl⟩
  | present _ _ ih =>
    cases h' with
    | here hc => cases hc
    | present _ hrest =>
      obtain ⟨rfl, rfl, rfl⟩ := ih hrest
      exact ⟨rfl, rfl, rfl⟩
  | element hlen hfirst h ih =>
    cases h' with
    | here hc => cases (element hlen hfirst h).complaint?_eq_none.symm.trans hc
    | element _ hfirst' hrest =>
      obtain ⟨rfl, rfl⟩ := hfirst.unique hfirst'
      obtain ⟨rfl, rfl, rfl⟩ := ih hrest
      exact ⟨rfl, rfl, rfl⟩
  | property hobject hfirst h ih =>
    cases h' with
    | here hc => cases (property hobject hfirst h).complaint?_eq_none.symm.trans hc
    | property _ hfirst' hrest =>
      obtain ⟨rfl, hp⟩ := hfirst.unique hfirst'
      cases hp
      obtain ⟨rfl, rfl, rfl⟩ := ih hrest
      exact ⟨rfl, rfl, rfl⟩

end FailsAlong

/-- A failing inspection fails along some steps. -/
theorem exists_failsAlong (t : Tree) {v : Value} (h : t.passes v = false) :
    ∃ steps node place, FailsAlong t v steps node place := by
  induction t generalizing v with
  | leaf i =>
    cases hr : (i.run v).value with
    | pass => cases h.symm.trans (congrArg Report.passed hr)
    | fail kind message => exact ⟨[], _, v, .here (by rw [complaint?, hr])⟩
  | all parts ih =>
    obtain ⟨before, t, hfirst⟩ := firstFailure_of_all h
    obtain ⟨steps, node, place, hrest⟩ := ih t hfirst.mem hfirst.fails
    exact ⟨_, node, place, .part hfirst hrest⟩
  -- Of alternatives the last is taken, and none only if there is none.
  | any alternatives ih =>
    have hfail := fails_of_any h
    rcases List.eq_nil_or_concat alternatives with rfl | ⟨before, t, hlast⟩
    · exact ⟨[], _, v, .here rfl⟩
    · rw [List.concat_eq_append] at hlast
      have ht : t ∈ alternatives := by simp [hlast]
      obtain ⟨steps, node, place, hrest⟩ := ih t ht (hfail t ht)
      exact ⟨_, node, place, .alternative hfail hlast hrest⟩
  | optional t ih =>
    rw [passes, report_optional] at h
    cases hn : v.isNullish with
    | true => simp [hn, Report.passed] at h
    | false =>
      obtain ⟨steps, node, place, hrest⟩ := ih (by simpa [hn, passes] using h)
      exact ⟨_, node, place, .present hn hrest⟩
  | array length element ih =>
    cases hc : (array length element).complaint? v with
    | some complaint => exact ⟨[], _, v, .here hc⟩
    | none =>
      cases v with
      | array id items =>
        have hlen : length.violation? items.length = none := Option.map_eq_none_iff.mp hc
        obtain ⟨t, rfl, before, w, hfirst⟩ := firstFailure_of_array hlen h
        obtain ⟨steps, node, place, hrest⟩ := ih t rfl hfirst.fails
        exact ⟨_, node, place, .element hlen hfirst hrest⟩
      | _ => cases hc
  | object nullable properties ih =>
    cases hc : (object nullable properties).complaint? v with
    | some complaint => exact ⟨[], _, v, .here hc⟩
    | none =>
      have hobject := isObject_of_complaint?_eq_none hc h
      obtain ⟨before, name, t, hfirst⟩ := firstFailure_of_object hobject h
      obtain ⟨steps, node, place, hrest⟩ := ih (name, t) hfirst.mem hfirst.fails
      exact ⟨_, node, place, .property hobject hfirst hrest⟩

/-- The way from a tree and a value to a node that fails on its own, with what the node says. -/
structure Trail (t : Tree) (v : Value) where
  steps : List Step
  node : Tree
  place : Value
  kind : ErrorKind
  text : String
  failsAlong : FailsAlong t v steps node place
  complaint : node.complaint? place = some (kind, text)

namespace Trail

variable {t : Tree}

/-- What the steps say, outermost first, and then the node. -/
def message (trail : Trail t v) : String := String.join (trail.steps.map Step.text) ++ trail.text

theorem eq (trail other : Trail t v) : other = trail := by
  obtain ⟨steps, node, place, kind, text, hf, hc⟩ := trail
  obtain ⟨steps', node', place', kind', text', hf', hc'⟩ := other
  obtain ⟨rfl, rfl, rfl⟩ := hf.unique hf'
  cases hc.symm.trans hc'
  rfl

theorem failsWith (trail : Trail t v) : (t.report v).FailsWith trail.kind trail.message :=
  trail.failsAlong.failsWith trail.complaint

end Trail

theorem exists_trail {t : Tree} (h : t.passes v = false) : Nonempty (Trail t v) := by
  obtain ⟨steps, node, place, hf⟩ := exists_failsAlong t h
  obtain ⟨⟨kind, text⟩, hc⟩ := hf.exists_complaint
  exact ⟨⟨steps, node, place, kind, text, hf, hc⟩⟩

/-- A failing inspection has one trail. Its reads lead to the place that the node fails on, and the
report, like the failure that an assertion raises, has the kind of the node and spells the trail. -/
theorem inspection_names_first_failure (t : Tree) (v : Value) (name : String)
    (h : (t.inspector.inspect v).value.passed = false) :
    ∃ trail : Trail t v, (∀ other : Trail t v, other = trail) ∧
      trail.steps.foldlM Step.read? v = some trail.place ∧
      (t.inspector.inspect v).value.kind = trail.kind ∧
      (t.inspector.inspect v).value.message.text = trail.message ∧
      ((Assertion.ofInspector name t.inspector).check v).value =
        some ⟨trail.kind, trail.message, name⟩ := by
  rw [value_inspect] at h ⊢
  obtain ⟨trail⟩ := exists_trail h
  exact ⟨trail, trail.eq, trail.failsAlong.reads, trail.failsWith.kind_eq, trail.failsWith.text_eq,
    Assertion.value_ofInspector_of_failsWith trail.failsWith name⟩

/-- A plugin has a name, and may have hooks: functions, or truth values that stand for one. -/
def plugin : Tree :=
  object false
    [("name", leaf .defined),
      ("hooks", optional (array .unbounded (some (any [leaf .function, all [leaf .boolean]]))))]

def brokenPlugin : Value :=
  .object 0 none
    [("name", .string "log"), ("hooks", .array 1 [.boolean true, .number .nan])]

theorem inspection_names_first_failure_brokenPlugin :
    (plugin.inspector.inspect brokenPlugin).value.passed = false ∧
    ∃ trail : Trail plugin brokenPlugin, (∀ other : Trail plugin brokenPlugin, other = trail) ∧
      trail.steps.foldlM Step.read? brokenPlugin = some trail.place ∧
      (plugin.inspector.inspect brokenPlugin).value.kind = trail.kind ∧
      (plugin.inspector.inspect brokenPlugin).value.message.text = trail.message ∧
      ((Assertion.ofInspector "plugin" plugin.inspector).check brokenPlugin).value =
        some ⟨trail.kind, trail.message, "plugin"⟩ :=
  ⟨rfl, inspection_names_first_failure plugin brokenPlugin "plugin" rfl⟩

example : (plugin.report brokenPlugin).message.text =
    "for property hooks, for index 1, no alternative matched, last: expected boolean type, " ++
      "received number" := by
  decide

end Tree

end Inspector

end Conform
