import Conform.Options.Decoding
import Conform.Pattern.Basic
import Conform.Value.Datatype

/-! Reasons why no checker can be built from what was asked for. -/

namespace Conform

inductive ConfigError where
  | invalidPattern (pattern : String) (reason : Pattern.Rejection)
  | lengthBounds (min max : Nat)
  | lengthBelowMin (length min : Nat)
  | lengthAboveMax (length max : Nat)
  | boundIsNaN
  | numberBounds (min max : Number)
  | invalidChoices (received : Datatype)
  | emptyClasses
  | notAClass (received : Datatype)
  | unknownDatatype (name : String)
  | invalidOptions (fault : OptionsFault)

namespace ConfigError

def text : ConfigError → String
  | invalidPattern pattern reason =>
    "invalid pattern " ++ Text.escaped pattern ++ ": " ++ reason.text pattern
  | lengthBounds min max =>
    "invalid length bounds: min length " ++ Nat.repr min ++ " exceeds max length " ++ Nat.repr max
  | lengthBelowMin length min =>
    "invalid length bounds: exact length " ++ Nat.repr length ++ " conflicts with min length " ++
      Nat.repr min
  | lengthAboveMax length max =>
    "invalid length bounds: exact length " ++ Nat.repr length ++ " conflicts with max length " ++
      Nat.repr max
  | boundIsNaN => "invalid number bounds: bounds must not be NaN"
  | numberBounds min max =>
    "invalid number bounds: min " ++ min.text ++ " exceeds max " ++ max.text
  | invalidChoices received =>
    "invalid choices: expected an array, received " ++ received.name
  | emptyClasses => "invalid classes: expected at least one class"
  | notAClass received =>
    "invalid class: expected a class constructor, received " ++ received.name
  | unknownDatatype name => "invalid datatype: " ++ Text.escaped name
  | invalidOptions fault => "invalid options: " ++ fault.text

end ConfigError

def StringOptions.ofJson (d : Json) : Except ConfigError StringOptions :=
  (decode d).mapError .invalidOptions

def NumberOptions.ofJson (d : Json) : Except ConfigError NumberOptions :=
  (decode d).mapError .invalidOptions

end Conform
