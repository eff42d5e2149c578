import Conform.Inspector

/-! Descriptions of checkers, and the two kinds of checker that can be built from one. Parts are
built before the whole, in order, and the first that cannot be built ends the build. -/

namespace Conform

inductive Checker where
  | string (options : StringOptions)
  | stringDocument (document : Json)
  | number (options : NumberOptions)
  | numberDocument (document : Json)
  | pattern (source : String)
  | boolean
  | function
  | defined
  | oneOf (choices : List Value)
  | oneOfValue (choices : Value)
  | instanceOf (classes : List Class)
  | instanceOfValues (candidates : List Value)
  | datatype (name : String)
  | all (checkers : List Checker)
  | any (checkers : List Checker)
  | optional (checker : Checker)
  | arrayOf (element : Checker)
  | array (element : Option Checker) (minLength maxLength : Option Nat)
  | object (nullable : Bool) (properties : List (String × Checker))
  | custom (accepts : Value → Bool)
  | probe (name : String) (accepts : Value → Bool)
  /-- An observed check that may break down with a text. -/
  | attempt (name : String) (check : Value → Except String Bool)
  | ofValidator (checker : Checker)
  | toValidator (checker : Checker)
  | fallible (checker : Checker)
  | reporting (report : Value → Report)
  | within (checker : Checker) (wrap : String → String)

namespace Checker

def decoded {α : Type} (options : Except ConfigError α) : Build α := ExceptT.mk (pure options)

@[simp] theorem result_decoded {α : Type} (options : Except ConfigError α) :
    (decoded options).result = options := rfl

mutual

def validator : Checker → Build Validator
  | string options => Validator.string options
  | stringDocument d => do Validator.string (← decoded (StringOptions.ofJson d))
  | number options => Validator.number options
  | numberDocument d => do Validator.number (← decoded (NumberOptions.ofJson d))
  | pattern source => Validator.pattern source
  | boolean => return Validator.ofPredicate Value.isBoolean
  | function => return Validator.ofPredicate Value.isFunction
  | defined => return Validator.ofPredicate Value.isDefined
  | oneOf choices => return Validator.oneOf choices
  | oneOfValue choices => Validator.oneOfValue choices
  | instanceOf classes => Validator.instanceOf classes
  | instanceOfValues candidates => Validator.instanceOfValues candidates
  | datatype name => Validator.datatype name
  | all checkers => return Validator.all (← validators checkers)
  | any checkers => return Validator.any (← validators checkers)
  | optional c => return (← c.validator).optional
  | arrayOf c => return (← c.validator).arrayOf
  | array element min max => do Validator.array ⟨← validator? element, min, max⟩
  | object nullable properties =>
    return Validator.object (.ofList nullable (← validatorEntries properties))
  | custom accepts => return Validator.ofPredicate accepts
  | probe name accepts => return Validator.probe name accepts
  | ofValidator c => c.validator
  | toValidator c => return (← c.inspector).toValidator
  | attempt name check => return (Inspector.attempt name check).toValidator
  | fallible c => return (Inspector.rebuilt c.inspector).toValidator
  | reporting report => return (Inspector.ofReport report).toValidator
  | within c wrap => return ((← c.inspector).within wrap).toValidator

def validators : List Checker → Build (List Validator)
  | [] => return []
  | c :: rest => return (← c.validator) :: (← validators rest)

def validator? : Option Checker → Build (Option Validator)
  | none => return none
  | some c => return some (← c.validator)

def validatorEntries : List (String × Checker) → Build (List (String × Validator))
  | [] => return []
  | (name, c) :: rest => return (name, ← c.validator) :: (← validatorEntries rest)

def inspector : Checker → Build Inspector
  | string options => Inspector.string options
  | stringDocument d => do Inspector.string (← decoded (StringOptions.ofJson d))
  | number options => Inspector.number options
  | numberDocument d => do Inspector.number (← decoded (NumberOptions.ofJson d))
  | pattern source => return Inspector.ofValidator (← Validator.pattern source)
  | boolean => return Inspector.boolean
  | function => return Inspector.function
  | defined => return Inspector.defined
  | oneOf choices => return Inspector.oneOf choices
  | oneOfValue choices => Inspector.oneOfValue choices
  | instanceOf classes => Inspector.instanceOf classes
  | instanceOfValues candidates => Inspector.instanceOfValues candidates
  | datatype name => Inspector.datatype name
  | all checkers => return Inspector.all (← inspectors checkers)
  | any checkers => return Inspector.any (← inspectors checkers)
  | optional c => return (← c.inspector).optional
  | arrayOf c => return (← c.inspector).arrayOf
  | array element min max => do Inspector.array ⟨← inspector? element, min, max⟩
  | object nullable properties =>
    return Inspector.object (.ofList nullable (← inspectorEntries properties))
  | custom accepts => return Inspector.ofValidator (.ofPredicate accepts)
  | probe name accepts => return Inspector.ofValidator (.probe name accepts)
  | ofValidator c => return Inspector.ofValidator (← c.validator)
  | toValidator c => return Inspector.ofValidator (← c.inspector).toValidator
  | attempt name check => return Inspector.attempt name check
  | fallible c => return Inspector.rebuilt c.inspector
  | reporting report => return Inspector.ofReport report
  | within c wrap => return (← c.inspector).within wrap

def inspectors : List Checker → Build (List Inspector)
  | [] => return []
  | c :: rest => return (← c.inspector) :: (← inspectors rest)

def inspector? : Option Checker → Build (Option Inspector)
  | none => return none
  | some c => return some (← c.inspector)

def inspectorEntries : List (String × Checker) → Build (List (String × Inspector))
  | [] => return []
  | (name, c) :: rest => return (name, ← c.inspector) :: (← inspectorEntries rest)

end

end Checker

end Conform
