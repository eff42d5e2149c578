import Conform.Entries
import Conform.Number.Basic

/-! Options that checkers are built from. A field that is not set constrains nothing. -/

namespace Conform

structure StringOptions where
  pattern : Option String
  length : Option Nat
  minLength : Option Nat
  maxLength : Option Nat
deriving DecidableEq

def StringOptions.none : StringOptions := ⟨.none, .none, .none, .none⟩

structure NumberOptions where
  min : Option Number
  max : Option Number
  integer : Bool

namespace NumberOptions

def none : NumberOptions := ⟨.none, .none, false⟩

def sameBound : Option Number → Option Number → Bool
  | some a, some b => a.equals b
  | .none, .none => true
  | _, _ => false

/-- Equality of options, under which a bound that is NaN differs from itself. -/
def same (a b : NumberOptions) : Bool :=
  sameBound a.min b.min && sameBound a.max b.max && a.integer == b.integer

end NumberOptions

variable {α β : Type}

/-- Options of arrays, for one kind of element checker. -/
structure ArrayOptions (α : Type) where
  element : Option α
  minLength : Option Nat
  maxLength : Option Nat

/-- Options of objects, for one kind of property checker. Properties are checked in order. -/
structure ObjectOptions (α : Type) where
  /-- Whether null passes. -/
  optional : Bool
  properties : List (String × α)

namespace ObjectOptions

def none : ObjectOptions α := ⟨false, []⟩

/-- Adds a property. A repeated name keeps its place and takes the new checker. -/
def property (options : ObjectOptions α) (name : String) (checker : α) : ObjectOptions α :=
  { options with properties := Entries.insert options.properties name checker }

def ofList (optional : Bool) (properties : List (String × α)) : ObjectOptions α :=
  properties.foldl (fun options p => options.property p.1 p.2) ⟨optional, []⟩

/-- The same options with another kind of property checker. -/
def map (f : α → β) (options : ObjectOptions α) : ObjectOptions β :=
  ⟨options.optional, options.properties.map fun p => (p.1, f p.2)⟩

theorem ofList_eq (optional : Bool) (properties : List (String × α)) :
    ofList optional properties = ⟨optional, Entries.ofList properties⟩ := by
  have hfold (entries : List (String × α)) :
      properties.foldl (fun options p => options.property p.1 p.2)
          (⟨optional, entries⟩ : ObjectOptions α) =
        ⟨optional, properties.foldl (fun entries p => Entries.insert entries p.1 p.2) entries⟩ := by
    induction properties generalizing entries with
    | nil => rfl
    | cons p rest ih => exact ih _
  exact hfold []

theorem map_ofList (f : α → β) (optional : Bool) (properties : List (String × α)) :
    (ofList optional properties).map f =
      ofList optional (properties.map fun p => (p.1, f p.2)) := by
  rw [ofList_eq, ofList_eq, map, Entries.map_ofList]

end ObjectOptions

end Conform
