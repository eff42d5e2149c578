import Conform.Proofs.Meaning

/-! A validator, an inspector and an assertion of one description come to the same verdicts, and
call the same observed checks in the same order. -/

namespace Conform.Checker

variable {c : Checker} {p : Validator} {i : Inspector}

/-- Both kinds of checker come to the same on every value, since both mean what the description
does. -/
theorem outcome_eq (hp : c.validator.result = .ok p) (hi : c.inspector.result = .ok i) :
    i.outcome = p.outcome := by
  have hv := (validator_means c).meaning_of_ok hp
  have hm := (inspector_means c).meaning_of_ok hi
  exact Except.ok.inj (hm.symm.trans hv)

/-- Building fails in both modes or in none, and with one error. Checkers that are built come to one
verdict on each value, in every mode. -/
theorem modes_agree (c : Checker) (name : String) :
    (∀ e, c.validator.result = .error e ↔ c.inspector.result = .error e) ∧
    ∀ p i, c.validator.result = .ok p → c.inspector.result = .ok i → ∀ v,
      (i.inspect v).value.passed = (p.validate v).value ∧
      (i.check v).value = (p.validate v).value ∧
      ((Assertion.ofInspector name i).check v).value.isNone = (p.validate v).value := by
  refine ⟨fun e => ?_, fun p i hp hi v => ?_⟩
  · rw [(validator_means c).error_iff, (inspector_means c).error_iff]
  · have ho : i.outcome v = p.outcome v := congrFun (outcome_eq hp hi) v
    have hinspect := (i.outcome_inspect v).trans ho
    have hcheck := (i.outcome_check v).trans ho
    have hassert := ((Assertion.ofInspector name i).outcome_check v).trans ho
    exact ⟨congrArg Outcome.passed hinspect, congrArg Outcome.passed hcheck,
      congrArg Outcome.passed hassert⟩

/-- An account: an unused name, and at most two tags if there are any. -/
def account : Checker :=
  .object true
    [("name", .all [.string ⟨none, none, some 1, none⟩, .probe "unused" Value.isString]),
      ("tags", .optional (.array (some (.any [.boolean, .fallible (.probe "tag" Value.isString)]))
        none (some 2)))]

theorem modes_agree_account : ∃ p i,
    account.validator.result = .ok p ∧ account.inspector.result = .ok i ∧ ∀ v,
      (i.inspect v).value.passed = (p.validate v).value ∧
      (i.check v).value = (p.validate v).value ∧
      ((Assertion.ofInspector "account" i).check v).value.isNone = (p.validate v).value :=
  ⟨_, _, rfl, rfl, (modes_agree account "account").2 _ _ rfl rfl⟩

/-- The meaning of a description says which observed checks are called, in which order: it is what
every mode calls, and the verdicts by which it skips calls are those of the modes. -/
theorem modes_call_alike (c : Checker) (name : String) {p : Validator} {i : Inspector}
    (hp : c.validator.result = .ok p) (hi : c.inspector.result = .ok i) :
    ∃ o, c.meaning = .ok o ∧ ∀ v,
      (p.validate v).value = (o v).passed ∧
      trace (p.validate v).events = (o v).calls ∧
      trace (i.inspect v).events = (o v).calls ∧
      trace (i.check v).events = (o v).calls ∧
      trace ((Assertion.ofInspector name i).check v).events = (o v).calls := by
  refine ⟨p.outcome, (validator_means c).meaning_of_ok hp, fun v => ⟨rfl, rfl, ?_⟩⟩
  have ho : i.outcome v = p.outcome v := congrFun (outcome_eq hp hi) v
  have hinspect := (i.outcome_inspect v).trans ho
  have hcheck := (i.outcome_check v).trans ho
  have hassert := ((Assertion.ofInspector name i).outcome_check v).trans ho
  exact ⟨congrArg Outcome.calls hinspect, congrArg Outcome.calls hcheck,
    congrArg Outcome.calls hassert⟩

theorem modes_call_alike_account : ∃ p i o,
    account.validator.result = .ok p ∧ account.inspector.result = .ok i ∧
    account.meaning = .ok o ∧ ∀ v,
      (p.validate v).value = (o v).passed ∧
      trace (p.validate v).events = (o v).calls ∧
      trace (i.inspect v).events = (o v).calls ∧
      trace (i.check v).events = (o v).calls ∧
      trace ((Assertion.ofInspector "account" i).check v).events = (o v).calls :=
  have ⟨o, ho, hcalls⟩ := modes_call_alike account "account" (p := _) (i := _) rfl rfl
  ⟨_, _, o, rfl, rfl, ho, hcalls⟩

end Conform.Checker
