import Conform.Number.Basic
import Conform.Number.Rounding
import Conform.Pattern.Basic
import Conform.Value.Class
import Conform.Value.Datatype

/-! Dynamic values. Symbols, arrays, objects, patterns and functions carry an identity, by which
they are told apart from others with the same contents. -/

namespace Conform

inductive Value where
  | undefined
  | null
  | boolean (value : Bool)
  | number (value : Number)
  | bigint (value : Int)
  | string (text : String)
  | symbol (id : Nat) (description : String)
  | array (id : Nat) (items : List Value)
  | object (id : Nat) (cls : Option Class) (entries : List (String × Value))
  | regexp (id : Nat) (pattern : Pattern)
  | function (function : Function)

namespace Value

def datatype : Value → Datatype
  | undefined => .undefined
  | null | array _ _ | object _ _ _ | regexp _ _ => .object
  | boolean _ => .boolean
  | number _ => .number
  | bigint _ => .bigint
  | string _ => .string
  | symbol _ _ => .symbol
  | function _ => .function

def isNullish : Value → Bool
  | undefined | null => true
  | _ => false

def isTruthy : Value → Bool
  | undefined | null => false
  | boolean b => b
  | number n => !n.isZero && !n.isNaN
  | bigint n => n != 0
  | string s => s != ""
  | _ => true

/-- Values of simple types are equal by value, all others by identity. NaN equals nothing, and the
two zeros are equal. -/
def strictEquals : Value → Value → Bool
  | undefined, undefined => true
  | null, null => true
  | boolean a, boolean b => a == b
  | number a, number b => a.equals b
  | bigint a, bigint b => a == b
  | string a, string b => a == b
  | symbol a _, symbol b _ => a == b
  | array a _, array b _ => a == b
  | object a _ _, object b _ _ => a == b
  | regexp a _, regexp b _ => a == b
  | function f, function g => f.same g
  | _, _ => false

def instanceOf (v : Value) (c : Class) : Bool :=
  match v with
  | object _ cls _ => cls.any (·.isSubclassOf c)
  | _ => false

def class? : Value → Option Class
  | function f => f.class?
  | _ => none

def text? : Value → Option String
  | string s => some s
  | _ => none

def number? : Value → Option Number
  | number n => some n
  | _ => none

def items? : Value → Option (List Value)
  | array _ items => some items
  | _ => none

def entries? : Value → Option (List (String × Value))
  | object _ _ entries => some entries
  | _ => none

def function? : Value → Option Function
  | function f => some f
  | _ => none

end Value

end Conform
