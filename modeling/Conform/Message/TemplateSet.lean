import Conform.Message.Template
/-!
Sets of message templates: one section for the checks that every key can have, one for declared
types and one for predicates.
-/

namespace Conform

structure TemplateSet where
  checks : OrderedMap String
  types : OrderedMap String
  predicates : OrderedMap String

namespace TemplateSet

def empty : TemplateSet := ⟨OrderedMap.empty, OrderedMap.empty, OrderedMap.empty⟩

instance : Inhabited TemplateSet := ⟨empty⟩

def merge (s t : TemplateSet) : TemplateSet :=
  ⟨s.checks.merge t.checks, s.types.merge t.types, s.predicates.merge t.predicates⟩

def template? (set : TemplateSet) : Check → Option String
  | .keyPresence => set.checks.get? "key_presence"
  | .quantifier => set.checks.get? "filled"
  | .type name => set.types.get? name
  | .predicate name => set.predicates.get? name

def has (set : TemplateSet) (check : Check) : Bool := (set.template? check).isSome

def resolve (set : TemplateSet) (check : Check) (args : List Argument) : String :=
  match set.template? check with
  | some template => Template.interpolate template args
  | none => "failed " ++ check.describe

end TemplateSet

end Conform
