import Conform.Proofs.Saying
import Conform.Proofs.Verdicts

/-! Laws of the ways of combining checkers. Wherever in a description a law is applied, the checker
of the whole reports the same of every value, or at least comes to the same verdict. -/

namespace Conform

namespace Saying

variable {s : Saying} {v : Value}

/-- What the first inspectors have to say comes before what the others would. -/
theorem all_append (before after : List Saying) (v : Value) :
    all (before ++ after) v = (all before v).or (all after v) := List.findSome?_append

theorem all_single (s : Saying) : all [s] = s := by
  funext v
  simp [all]

/-- A conjunction within a conjunction may be spelled out in its place. -/
theorem all_flatten (before inner after : List Saying) :
    all (before ++ all inner :: after) = all (before ++ inner ++ after) := by
  funext v
  rw [List.append_assoc, all_append, all_append, ← List.singleton_append, all_append, all_append,
    all_single]

theorem optional_optional (s : Saying) : s.optional.optional = s.optional := by
  funext v
  unfold optional
  split <;> rfl

theorem optional_of_nullish (h : v.isNullish = true) (s : Saying) : s.optional v = none := if_pos h

theorem optional_of_not_nullish (h : v.isNullish = false) (s : Saying) : s.optional v = s v :=
  if_neg (by simp [h])

/-- An option may be moved from a conjunction to its members. -/
theorem optional_all (sayings : List Saying) :
    (all sayings).optional = all (sayings.map optional) := by
  funext v
  cases h : v.isNullish with
  | true =>
    rw [optional_of_nullish h]
    refine (List.findSome?_eq_none_iff.mpr fun s hs => ?_).symm
    obtain ⟨s, -, rfl⟩ := List.mem_map.mp hs
    exact optional_of_nullish h s
  | false => simp [all, optional_of_not_nullish h, List.findSome?_map, Function.comp_def]

/-- An alternative with nothing to choose from fails also of null. -/
theorem optional_any {sayings : List Saying} (hne : sayings ≠ []) :
    (any sayings).optional = any (sayings.map optional) := by
  funext v
  cases h : v.isNullish with
  | true =>
    obtain ⟨s, rest, rfl⟩ := List.exists_cons_of_ne_nil hne
    simp [any, optional_of_nullish h]
  | false =>
    rw [optional_of_not_nullish h]
    simp only [any, List.any_map, List.getLast?_map, Function.comp_def, optional_of_not_nullish h]
    cases sayings.getLast? with
    | none => rfl
    | some last => simp [optional_of_not_nullish h]

end Saying

namespace Checker

variable {c c' : Checker}

/-- A law applied at some place of a description. -/
inductive Inside (law : Checker → Checker → Prop) : Checker → Checker → Prop where
  | here {c c' : Checker} (h : law c c') : Inside law c c'
  | all (pre post : List Checker) {c c' : Checker} (h : Inside law c c') :
      Inside law (all (pre ++ c :: post)) (all (pre ++ c' :: post))
  | any (pre post : List Checker) {c c' : Checker} (h : Inside law c c') :
      Inside law (any (pre ++ c :: post)) (any (pre ++ c' :: post))
  | optional {c c' : Checker} (h : Inside law c c') : Inside law (optional c) (optional c')
  | arrayOf {c c' : Checker} (h : Inside law c c') : Inside law (arrayOf c) (arrayOf c')
  | array {c c' : Checker} (min max : Option Nat) (h : Inside law c c') :
      Inside law (array (some c) min max) (array (some c') min max)
  | object (nullable : Bool) (pre post : List (String × Checker)) (name : String) {c c' : Checker}
      (h : Inside law c c') :
      Inside law (object nullable (pre ++ (name, c) :: post))
        (object nullable (pre ++ (name, c') :: post))
  | ofValidator {c c' : Checker} (h : Inside law c c') :
      Inside law (ofValidator c) (ofValidator c')
  | toValidator {c c' : Checker} (h : Inside law c c') :
      Inside law (toValidator c) (toValidator c')
  | fallible {c c' : Checker} (h : Inside law c c') : Inside law (fallible c) (fallible c')
  | within {c c' : Checker} (wrap : String → String) (h : Inside law c c') :
      Inside law (within c wrap) (within c' wrap)

/-- Laws under which the report stays the same. -/
inductive ReportLaw : Checker → Checker → Prop where
  | flatten (before inner after : List Checker) :
      ReportLaw (all (before ++ all inner :: after)) (all (before ++ inner ++ after))
  | single (c : Checker) : ReportLaw (all [c]) c
  | optionalTwice (c : Checker) : ReportLaw (optional (optional c)) (optional c)
  | optionalAll (checkers : List Checker) :
      ReportLaw (optional (all checkers)) (all (checkers.map optional))
  | optionalAny {checkers : List Checker} (h : checkers ≠ []) :
      ReportLaw (optional (any checkers)) (any (checkers.map optional))

/-- Laws under which the verdict stays the same: parts of one kind may come in any order, and any
number of times. -/
inductive VerdictLaw : Checker → Checker → Prop where
  | all {cs cs' : List Checker} (h : ∀ c, c ∈ cs ↔ c ∈ cs') : VerdictLaw (all cs) (all cs')
  | any {cs cs' : List Checker} (h : ∀ c, c ∈ cs ↔ c ∈ cs') : VerdictLaw (any cs) (any cs')
  | flattenAny (before inner after : List Checker) :
      VerdictLaw (any (before ++ any inner :: after)) (any (before ++ inner ++ after))
  | properties (nullable : Bool) {properties properties' : List (String × Checker)}
      (h : properties.Perm properties') (hdistinct : (properties.map (·.1)).Nodup) :
      VerdictLaw (object nullable properties) (object nullable properties')

theorem mapM_saying_optional (checkers : List Checker) :
    (checkers.map optional).mapM saying = List.map Saying.optional <$> checkers.mapM saying := by
  rw [← mapM_map_eq, List.mapM_map]
  exact congrArg (fun f => checkers.mapM f) (funext saying_optional)

/-- The laws on reports hold of what inspectors say, message for message. -/
theorem ReportLaw.saying_eq (h : ReportLaw c c') : c.saying = c'.saying := by
  cases h with
  | flatten before inner after =>
    rw [saying_all, saying_all]
    simp only [List.mapM_append, List.mapM_cons, saying_all]
    simp [Saying.all_flatten]
  | single c => simp [saying_all, Saying.all_single]
  | optionalTwice c => simp [saying_optional, Saying.optional_optional]
  | optionalAll checkers =>
    rw [saying_optional, saying_all, saying_all, mapM_saying_optional]
    simp [Saying.optional_all]
  | @optionalAny checkers hne =>
    rw [saying_optional, saying_any, saying_any, mapM_saying_optional]
    obtain ⟨c, rest, rfl⟩ := List.exists_cons_of_ne_nil hne
    simp [Saying.optional_any]

/-- The induction is on the way down to the place: what a combination says depends on no more than
what its parts say. -/
theorem Inside.saying_eq {law : Checker → Checker → Prop}
    (hlaw : ∀ c c', law c c' → c.saying = c'.saying) (h : Inside law c c') :
    c.saying = c'.saying := by
  induction h with
  | here h => exact hlaw _ _ h
  | all pre post _ ih => simp only [saying_all, List.mapM_append, List.mapM_cons, ih]
  | any pre post _ ih => simp only [saying_any, List.mapM_append, List.mapM_cons, ih]
  | optional _ ih => rw [saying_optional, saying_optional, ih]
  | arrayOf _ ih => rw [saying_arrayOf, saying_arrayOf, ih]
  | array min max _ ih => rw [saying_array, saying_array, ih]
  | object nullable pre post name _ ih =>
    simp only [saying_object, List.mapM_append, List.mapM_cons, sayingEntry, ih]
  | ofValidator _ ih => rw [saying_ofValidator, saying_ofValidator, ih]
  | toValidator _ ih => rw [saying_toValidator, saying_toValidator, ih]
  | fallible _ ih => rw [saying_fallible, saying_fallible, ih]
  | within wrap _ ih => rw [saying_within, saying_within, ih]

/-- There is a checker of both descriptions or of none, and both accept the same. -/
structure SameVerdict (c c' : Checker) : Prop where
  builds : c.Builds ↔ c'.Builds
  accepts (v : Value) : c.Accepts v ↔ c'.Accepts v

/-- The laws on verdicts hold in both modes, and of whether a checker can be built. -/
theorem VerdictLaw.sameVerdict (h : VerdictLaw c c') : SameVerdict c c' := by
  cases h with
  | all h => exact ⟨by simp only [builds_all, h], fun v => by simp only [accepts_all, h]⟩
  | any h =>
    exact ⟨by simp only [builds_any, h], fun v => by simp only [accepts_any, builds_any, h]⟩
  | flattenAny before inner after =>
    have hbuilds : (Checker.any (before ++ .any inner :: after)).Builds ↔
        (Checker.any (before ++ inner ++ after)).Builds := by
      simp only [builds_any, List.append_assoc, List.forall_mem_append, List.forall_mem_cons]
    refine ⟨hbuilds, fun v => ?_⟩
    rw [accepts_any, accepts_any, hbuilds]
    refine and_congr_right fun hall => ?_
    have hinner : (Checker.any inner).Builds :=
      builds_any.mpr fun c hc => builds_any.mp hall c (by simp [hc])
    simp [accepts_any, hinner, or_and_right, exists_or]
  | properties nullable h hdistinct =>
    have hdistinct' := (h.map (·.1)).nodup_iff.mp hdistinct
    refine ⟨?_, fun v => ?_⟩
    · simp only [builds_object, h.mem_iff]
    · simp only [accepts_object, Entries.ofList_of_nodup _ hdistinct,
        Entries.ofList_of_nodup _ hdistinct', h.mem_iff]

/-- Of the properties of an object only the one in the place is another. -/
theorem sameVerdict_object (h : SameVerdict c c') (nullable : Bool)
    (pre post : List (String × Checker)) (name : String) :
    SameVerdict (object nullable (pre ++ (name, c) :: post))
      (object nullable (pre ++ (name, c') :: post)) := by
  have hbuilds : (∀ p ∈ pre ++ (name, c) :: post, p.2.Builds) ↔
      ∀ p ∈ pre ++ (name, c') :: post, p.2.Builds := by
    simp only [List.forall_mem_append, List.forall_mem_cons, h.builds]
  refine ⟨by rw [builds_object, builds_object, hbuilds], fun v => ?_⟩
  rw [accepts_object, accepts_object, hbuilds]
  have hproperties : ∀ {d d' : Checker}, SameVerdict d d' →
      (∀ p ∈ Entries.ofList (pre ++ (name, d) :: post), p.2.Accepts (v.property p.1)) →
      ∀ p ∈ Entries.ofList (pre ++ (name, d') :: post), p.2.Accepts (v.property p.1) := by
    intro d d' hd hall p hp
    rcases Entries.mem_ofList_replace hp with hp | ⟨hp, rfl⟩
    · exact hall p hp
    · exact (hd.accepts _).mp (hall _ hp)
  have hiff := Iff.intro (hproperties h) (hproperties ⟨h.builds.symm, fun v => (h.accepts v).symm⟩)
  rw [hiff]

theorem sameVerdict_array (h : SameVerdict c c') (min max : Option Nat) :
    SameVerdict (array (some c) min max) (array (some c') min max) := by
  refine ⟨by rw [builds_array, builds_array, h.builds], fun v => ?_⟩
  cases hlength : LengthRule.ofBounds none min max with
  | error e =>
    have hnone (d : Checker) : ¬ (array (some d) min max).Accepts v := by
      intro ha
      obtain ⟨-, length, hok⟩ := builds_array.mp ha.builds
      cases hlength.symm.trans hok
    exact iff_of_false (hnone c) (hnone c')
  | ok length => simp only [accepts_array hlength, h.builds, h.accepts]

/-- A law on verdicts may be applied at any place in a description. -/
theorem Inside.sameVerdict {law : Checker → Checker → Prop}
    (hlaw : ∀ c c', law c c' → SameVerdict c c') (h : Inside law c c') : SameVerdict c c' := by
  induction h with
  | here h => exact hlaw _ _ h
  | all pre post _ ih =>
    refine ⟨?_, fun v => ?_⟩
    · simp only [builds_all, List.forall_mem_append, List.forall_mem_cons, ih.builds]
    · simp only [accepts_all, List.forall_mem_append, List.forall_mem_cons, ih.accepts]
  | @any pre post d d' _ ih =>
    have hbuilds : (Checker.any (pre ++ d :: post)).Builds ↔
        (Checker.any (pre ++ d' :: post)).Builds := by
      simp only [builds_any, List.forall_mem_append, List.forall_mem_cons, ih.builds]
    refine ⟨hbuilds, fun v => ?_⟩
    rw [accepts_any, accepts_any, hbuilds]
    simp [or_and_right, exists_or, ih.accepts]
  | optional _ ih =>
    exact ⟨by rw [builds_optional, builds_optional, ih.builds],
      fun v => by rw [accepts_optional, accepts_optional, ih.builds, ih.accepts]⟩
  | arrayOf _ ih =>
    exact ⟨by rw [builds_arrayOf, builds_arrayOf, ih.builds],
      fun v => by simp only [accepts_arrayOf, ih.builds, ih.accepts]⟩
  | array min max _ ih => exact sameVerdict_array ih min max
  | object nullable pre post name _ ih => exact sameVerdict_object ih nullable pre post name
  | ofValidator _ ih | toValidator _ ih | within _ _ ih => exact ⟨ih.builds, ih.accepts⟩
  | fallible _ ih =>
    exact ⟨iff_of_true builds_fallible builds_fallible,
      fun v => by rw [accepts_fallible, accepts_fallible, ih.accepts]⟩

/-- The inspector of one description is refused for the reason the other is, and where there are
both they report the same of every value. -/
def SameReports (c c' : Checker) : Prop :=
  (∀ e, c.inspector.result = .error e ↔ c'.inspector.result = .error e) ∧
    ∀ i i', c.inspector.result = .ok i → c'.inspector.result = .ok i' → ∀ v,
      (i.inspect v).value.passed = (i'.inspect v).value.passed ∧
        (i.inspect v).value.kind = (i'.inspect v).value.kind ∧
        (i.inspect v).value.message.text = (i'.inspect v).value.message.text

/-- There is an inspector of both descriptions or of none, and both come to the same verdict on
every value. -/
def SamePassing (c c' : Checker) : Prop :=
  ((∃ i, c.inspector.result = .ok i) ↔ ∃ i', c'.inspector.result = .ok i') ∧
    ∀ i i', c.inspector.result = .ok i → c'.inspector.result = .ok i' → ∀ v,
      (i.inspect v).value.passed = (i'.inspect v).value.passed

/-- Checkers that say the same report the same and come to the same verdict. -/
theorem sameReports_of_saying_eq (h : c.saying = c'.saying) : SameReports c c' := by
  simp only [saying] at h
  refine ⟨fun e => ?_, fun i i' hi hi' v => ?_⟩
  · cases hc : c.inspector.result <;> cases hc' : c'.inspector.result <;> simp_all
  · rw [hi, hi'] at h
    have hsaying : i.saying v = i'.saying v := congrFun (Except.ok.inj h) v
    have hreport : (i.inspect v).value.complaint? = (i'.inspect v).value.complaint? := by
      rwa [Inspector.value_inspect, Inspector.value_inspect]
    exact ⟨Report.passed_eq_of_complaint hreport, Report.kind_eq_of_complaint hreport,
      Report.text_eq_of_complaint hreport⟩

theorem builds_iff_inspector : c.Builds ↔ ∃ i, c.inspector.result = .ok i := by
  constructor
  · rintro ⟨o, ho⟩
    obtain ⟨i, hi, -⟩ := (inspector_means c).exists_of_meaning ho
    exact ⟨i, hi⟩
  · rintro ⟨i, hi⟩
    exact ⟨_, (inspector_means c).meaning_of_ok hi⟩

theorem accepts_iff_inspect {i : Inspector} (hi : c.inspector.result = .ok i) (v : Value) :
    c.Accepts v ↔ (i.inspect v).value.passed = true := by
  rw [accepts_of_meaning ((inspector_means c).meaning_of_ok hi), Inspector.value_inspect]
  rfl

theorem SameVerdict.samePassing (h : SameVerdict c c') : SamePassing c c' := by
  refine ⟨builds_iff_inspector.symm.trans (h.builds.trans builds_iff_inspector),
    fun i i' hi hi' v => Bool.eq_iff_iff.mpr ?_⟩
  rw [← accepts_iff_inspect hi, ← accepts_iff_inspect hi', h.accepts v]

/-- A law on reports changes no report wherever in a description it is applied, and a law on
verdicts no verdict. -/
theorem combinators_lawful_inside :
    (Inside ReportLaw c c' → SameReports c c') ∧ (Inside VerdictLaw c c' → SamePassing c c') :=
  ⟨fun h => sameReports_of_saying_eq (h.saying_eq fun _ _ hlaw => hlaw.saying_eq),
    fun h => (h.sameVerdict fun _ _ hlaw => hlaw.sameVerdict).samePassing⟩

/-- A law at the elements of a property, and one in an alternative of a part that may be missing. -/
theorem combinators_lawful_in_property :
    SameReports (object false [("flags", arrayOf (optional (all [boolean, defined])))])
        (object false [("flags", arrayOf (all [optional boolean, optional defined]))]) ∧
      SamePassing (optional (any [boolean, all [any [function, any [boolean, defined]], defined]]))
        (optional (any [boolean, all [any [function, boolean, defined], defined]])) :=
  ⟨combinators_lawful_inside.1
      (.object false [] [] "flags" (.arrayOf (.here (.optionalAll [boolean, defined])))),
    combinators_lawful_inside.2
      (.optional (.any [boolean] [] (.all [] [defined]
        (.here (.flattenAny [function] [boolean, defined] [])))))⟩

end Checker

end Conform
