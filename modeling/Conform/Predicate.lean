import Conform.Value
/-!
Predicates: named checks of a value against arguments that a schema declares.
-/

namespace Conform

inductive Category where
  | type
  | presence
  | comparison
  | equality
  | size
  | inclusion
  | logic
  deriving DecidableEq, Repr

namespace Category

def all : List Category := [type, presence, comparison, equality, size, inclusion, logic]

def name : Category → String
  | type => "type"
  | presence => "presence"
  | comparison => "comparison"
  | equality => "equality"
  | size => "size"
  | inclusion => "inclusion"
  | logic => "logic"

def title : Category → String
  | type => "Type"
  | presence => "Presence"
  | comparison => "Comparison"
  | equality => "Equality"
  | size => "Size"
  | inclusion => "Inclusion"
  | logic => "Logic"

end Category

inductive ArgumentKind where
  | number
  | nonNegativeInteger
  | list
  | any
  deriving DecidableEq, Repr

namespace ArgumentKind

def all : List ArgumentKind := [number, nonNegativeInteger, list, any]

def name : ArgumentKind → String
  | number => "number"
  | nonNegativeInteger => "non_negative_integer"
  | list => "list"
  | any => "any"

def description : ArgumentKind → String
  | number => "a number"
  | nonNegativeInteger => "a non-negative integer"
  | list => "a list"
  | any => "any value"

def accepts : ArgumentKind → Value → Bool
  | number, v => v.isNumber
  | nonNegativeInteger, .integer n => 0 ≤ n
  | nonNegativeInteger, _ => false
  | list, v => v.array?.isSome
  | any, _ => true

end ArgumentKind

structure Parameter where
  name : String
  kind : ArgumentKind
  deriving DecidableEq, Repr

structure Predicate where
  name : String
  category : Category
  parameters : List Parameter
  description : String
  check : Option Value → List Value → Bool

def Predicate.arity (p : Predicate) : Nat := p.parameters.length

end Conform
