/-! Classes, each with at most one parent, and functions, some of which construct a class. -/

namespace Conform

/-- A class is known by its identity; any number of classes may share a name. -/
inductive Class where
  | base (id : Nat) (name : String)
  | derived (id : Nat) (name : String) (parent : Class)

namespace Class

def id : Class → Nat
  | base id _ => id
  | derived id _ _ => id

def name : Class → String
  | base _ name => name
  | derived _ name _ => name

def parent? : Class → Option Class
  | base _ _ => none
  | derived _ _ parent => some parent

/-- The class and its ancestors, nearest first. -/
def lineage : Class → List Class
  | base id name => [base id name]
  | derived id name parent => derived id name parent :: parent.lineage

def same (c d : Class) : Bool := c.id == d.id

/-- Whether `d` is `c` or an ancestor of it. -/
def isSubclassOf (c d : Class) : Bool := c.lineage.any (·.same d)

end Class

inductive Function where
  | plain (id : Nat) (name : String)
  | constructor (id : Nat) (cls : Class)

namespace Function

def id : Function → Nat
  | plain id _ => id
  | constructor id _ => id

def name : Function → String
  | plain _ name => name
  | constructor _ cls => cls.name

def class? : Function → Option Class
  | plain _ _ => none
  | constructor _ cls => some cls

/-- Constructors of one class are the same function; other functions go by identity. -/
def same : Function → Function → Bool
  | constructor _ c, constructor _ d => c.same d
  | f, g => f.id == g.id

end Function

end Conform
