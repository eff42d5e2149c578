import Conform.Assert
import Conform.Proofs.Position

/-! Assertions for single use that are asked for with faulty bounds, patterns or classes. The fault
is raised for every value and before any check is run, save that an assertion of an array first asks
for one. -/

namespace Conform

/-- What is wrong with the bounds of a number. -/
inductive NumberFault (min max : Option Number) : ConfigError → Prop where
  | isNaN {bound : Number} : bound ∈ min ∨ bound ∈ max → bound.isNaN = true →
      NumberFault min max .boundIsNaN
  | inverted {a b : Number} : a ∈ min → b ∈ max → b.lt a = true →
      NumberFault min max (.numberBounds a b)

/-- What is wrong with the pattern of a string or else with its bounds. -/
inductive StringFault (pattern : Option String) (min max : Option Nat) : ConfigError → Prop where
  | pattern {source : String} {rejection : Pattern.Rejection} : source ∈ pattern →
      Pattern.ofSource source = .error rejection →
      StringFault pattern min max (.invalidPattern source rejection)
  | inverted {a b : Nat} : (∀ source ∈ pattern, ∃ p, Pattern.ofSource source = .ok p) →
      a ∈ min → b ∈ max → b < a → StringFault pattern min max (.lengthBounds a b)

theorem NumberRule.ofOptions_of_fault {options : NumberOptions} {e : ConfigError}
    (h : NumberFault options.min options.max e) : ofOptions options = .error e := by
  rw [ofOptions]
  cases h with
  | isNaN hmem hnan =>
    refine if_pos ?_
    rcases hmem with hmem | hmem
    · simp [Option.mem_def.mp hmem, hnan]
    · simp [Option.mem_def.mp hmem, hnan]
  | inverted ha hb hlt =>
    obtain ⟨hbnan, hanan⟩ := Number.isNaN_of_lt hlt
    simp [Option.mem_def.mp ha, Option.mem_def.mp hb, hanan, hbnan, hlt]

/-- A fault of the bounds of a number is rejected, whether or not it has to be an integer. -/
theorem NumberRule.compile_of_fault {min max : Option Number} {e : ConfigError}
    (h : NumberFault min max e) (integer : Bool) : compile ⟨min, max, integer⟩ = .reject e := by
  have houtcome : ofOptions ⟨min, max, integer⟩ = .error e := ofOptions_of_fault h
  rw [compile_eq, houtcome]
  rfl

theorem LengthRule.ofBounds_of_inverted {a b : Nat} (h : b < a) (length : Option Nat) :
    ofBounds length (some a) (some b) = .error (.lengthBounds a b) := if_pos h

/-- Bounds in the wrong order are rejected before anything else. -/
theorem LengthRule.compile_of_inverted {a b : Nat} (h : b < a) (length : Option Nat) :
    compile length (some a) (some b) = .reject (.lengthBounds a b) := if_pos h

namespace StringRule

theorem readPattern_of_error {source : String} {rejection : Pattern.Rejection}
    (h : Pattern.ofSource source = .error rejection) :
    readPattern source = .error (.invalidPattern source rejection) := by
  rw [readPattern, h]
  rfl

theorem readPattern_of_ok {source : String} {p : Pattern} (h : Pattern.ofSource source = .ok p) :
    readPattern source = .ok p := by
  rw [readPattern, h]
  rfl

theorem ofOptions_of_fault {pattern : Option String} {min max : Option Nat} {e : ConfigError}
    (h : StringFault pattern min max e) : ofOptions ⟨pattern, none, min, max⟩ = .error e := by
  cases h with
  | pattern hsource hread =>
    cases hsource
    rw [ofOptions, Option.mapM_some, readPattern_of_error hread]
    rfl
  | inverted hread ha hb hlt =>
    cases ha
    cases hb
    rw [ofOptions, LengthRule.ofBounds_of_inverted hlt]
    cases pattern with
    | none => rfl
    | some source =>
      obtain ⟨p, hp⟩ := hread source rfl
      rw [Option.mapM_some, readPattern_of_ok hp]
      rfl

theorem compile_of_fault {pattern : Option String} {min max : Option Nat} {e : ConfigError}
    (h : StringFault pattern min max e) : compile ⟨pattern, none, min, max⟩ = .reject e := by
  rw [compile_eq, ofOptions_of_fault h]
  rfl

end StringRule

namespace Assert

/-- The run of a call that cannot be configured: the rejection is recorded and raised, and nothing
else happens. -/
def misconfigured (origin : String) (e : ConfigError) : Recorded (Option Failure) where
  value := some ⟨.error, e.text, origin⟩
  events := [.rejected e, .raised ⟨.error, e.text, origin⟩]

/-- A call that is configured by a rejected build raises that, and checks nothing. -/
theorem configured_of_reject {α : Type} {build : Build α} {e : ConfigError}
    (h : build = .reject e) (origin : String) (next : α → Recorded (Option Failure)) :
    configured origin build next = misconfigured origin e := by
  subst h
  rfl

theorem array_of_inverted {a b : Nat} (h : b < a) (id : Nat) (items : List Value)
    (element : Option (Value → Nat → Recorded Bool)) :
    array (.array id items) element (some a) (some b) =
      misconfigured "assert.array" (.lengthBounds a b) :=
  configured_of_reject (LengthRule.compile_of_inverted h none) _ _

/-- What is no array is not asked for its bounds. -/
theorem array_of_not_isArray {v : Value} (h : v.isArray = false)
    (element : Option (Value → Nat → Recorded Bool)) (min max : Option Nat) :
    array v element min max = violated "assert.array" (.wrongType "array" v.datatype) := by
  cases v with
  | array id items => cases h
  | _ => rfl

/-- Faulty bounds, patterns and classes are raised as what they are, whatever the value is and
without a check of its parts. Only an assertion of an array looks at the value first: what is no
array is raised as that, and its bounds are not looked at. -/
theorem faulty_configuration_is_raised (v : Value) :
    (∀ min max e, NumberFault min max e →
      number v min max = misconfigured "assert.number" e) ∧
    (∀ min max e,
      NumberFault (some (min.getD minSafeInteger)) (some (max.getD maxSafeInteger)) e →
        integer v min max = misconfigured "assert.number.integer" e) ∧
    (∀ pattern min max e, StringFault pattern min max e →
      string v pattern min max = misconfigured "assert.string" e) ∧
    instanceOf v [] = misconfigured "assert.instance" .emptyClasses ∧
    ∀ element a b, b < a →
      array v element (some a) (some b) =
        if v.isArray then misconfigured "assert.array" (.lengthBounds a b)
        else violated "assert.array" (.wrongType "array" v.datatype) := by
  refine ⟨?_, ?_, ?_, rfl, ?_⟩
  · intro min max e h
    exact configured_of_reject (NumberRule.compile_of_fault h false) _ _
  · intro min max e h
    exact configured_of_reject (NumberRule.compile_of_fault h true) _ _
  · intro pattern min max e h
    exact configured_of_reject (StringRule.compile_of_fault h) _ _
  · intro element a b h
    cases v with
    | array id items => exact array_of_inverted h id items element
    | _ => exact array_of_not_isArray rfl element (some a) (some b)

/-- Four calls for null with faulty bounds, and one for a list of it. -/
theorem faulty_configuration_is_raised_null :
    (NumberFault (some .nan) none .boundIsNaN ∧
      number .null (some .nan) none = misconfigured "assert.number" .boundIsNaN) ∧
    (NumberFault (some minSafeInteger) (some (.infinity true))
        (.numberBounds minSafeInteger (.infinity true)) ∧
      integer .null none (some (.infinity true)) =
        misconfigured "assert.number.integer" (.numberBounds minSafeInteger (.infinity true))) ∧
    (StringFault none (some 2) (some 1) (.lengthBounds 2 1) ∧
      string .null none (some 2) (some 1) =
        misconfigured "assert.string" (.lengthBounds 2 1)) ∧
    instanceOf .null [] = misconfigured "assert.instance" .emptyClasses ∧
    1 < 2 ∧ array (.array 0 [.null]) none (some 2) (some 1) =
      misconfigured "assert.array" (.lengthBounds 2 1) := by
  obtain ⟨hnumber, hinteger, hstring, hinstance, -⟩ := faulty_configuration_is_raised .null
  obtain ⟨-, -, -, -, harray⟩ := faulty_configuration_is_raised (.array 0 [.null])
  have hnan : NumberFault (some .nan) none .boundIsNaN := .isNaN (.inl rfl) rfl
  have hsafe : NumberFault (some minSafeInteger) (some (.infinity true))
      (.numberBounds minSafeInteger (.infinity true)) := .inverted rfl rfl (by decide +kernel)
  have hlength : StringFault none (some 2) (some 1) (.lengthBounds 2 1) :=
    .inverted (by simp) rfl rfl (by decide)
  have hraised := hinteger none (some (.infinity true)) _ (by
    rw [Option.getD_none, Option.getD_some]
    exact hsafe)
  exact ⟨⟨hnan, hnumber _ _ _ hnan⟩, ⟨hsafe, hraised⟩, ⟨hlength, hstring _ _ _ _ hlength⟩,
    hinstance, by decide, (harray none 2 1 (by decide)).trans (if_pos rfl)⟩

/-- A text is no array, and is raised as that although the bounds of the array are inverted. -/
theorem array_conceals_inverted_bounds :
    (array (.string "x") none (some 2) (some 1)).value =
        some ⟨.typeError, "expected array type, received string", "assert.array"⟩ ∧
      array (.string "x") none (some 2) (some 1) ≠
        misconfigured "assert.array" (.lengthBounds 2 1) := by
  have hvalue : (array (.string "x") none (some 2) (some 1)).value =
      some ⟨.typeError, "expected array type, received string", "assert.array"⟩ := by
    decide
  refine ⟨hvalue, fun h => ?_⟩
  rw [h, misconfigured] at hvalue
  cases hvalue

end Assert

end Conform
