import Conform.Value
/-!
Schema declarations: what is asked of the keys of an input, before any name is looked up.
-/

namespace Conform

inductive Requiredness where
  | required
  | optional
  deriving DecidableEq, Repr

namespace Requiredness

def all : List Requiredness := [required, optional]

def name : Requiredness → String
  | required => "required"
  | optional => "optional"

end Requiredness

inductive Quantifier where
  | value
  | filled
  | maybe
  deriving DecidableEq, Repr

namespace Quantifier

def all : List Quantifier := [value, filled, maybe]

def name : Quantifier → String
  | value => "value"
  | filled => "filled"
  | maybe => "maybe"

end Quantifier

structure PredicateDeclaration where
  name : String
  args : List Value := []

structure KeyDeclaration where
  key : String
  requiredness : Requiredness := .required
  quantifier : Quantifier := .value
  type : Option String := none
  predicates : List PredicateDeclaration := []

structure SchemaDeclaration where
  keys : List KeyDeclaration := []

namespace KeyDeclaration

def required (key : String) : KeyDeclaration where
  key := key

def optional (key : String) : KeyDeclaration where
  key := key
  requiredness := .optional

def withQuantifier (d : KeyDeclaration) (quantifier : Quantifier) : KeyDeclaration :=
  { d with quantifier }

def typed (d : KeyDeclaration) (quantifier : Quantifier) (type : String) : KeyDeclaration :=
  { d with quantifier, type := some type }

def value (d : KeyDeclaration) (type : String) : KeyDeclaration := d.typed .value type

def filled (d : KeyDeclaration) (type : String) : KeyDeclaration := d.typed .filled type

def maybe (d : KeyDeclaration) (type : String) : KeyDeclaration := d.typed .maybe type

def checkArgs (d : KeyDeclaration) (name : String) (args : List Value) : KeyDeclaration :=
  { d with predicates := d.predicates ++ [⟨name, args⟩] }

def check (d : KeyDeclaration) (name : String) (arg : Value) : KeyDeclaration :=
  d.checkArgs name [arg]

def predicate (d : KeyDeclaration) (name : String) : KeyDeclaration := d.checkArgs name []

end KeyDeclaration

def SchemaDeclaration.key (s : SchemaDeclaration) (d : KeyDeclaration) : SchemaDeclaration :=
  ⟨s.keys ++ [d]⟩

end Conform
