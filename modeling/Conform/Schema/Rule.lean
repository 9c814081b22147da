import Conform.Check
import Conform.DeclaredType
import Conform.Predicate
import Conform.Schema.Declaration
import Conform.Value.Equality
/-!
Compiled rules. Every name in a rule is resolved: it carries the type and the predicates themselves,
so evaluation looks nothing up.
-/

namespace Conform

structure PredicateRule where
  name : String
  args : List Value
  parameters : List Parameter
  check : Option Value → List Value → Bool

namespace PredicateRule

def holds (p : PredicateRule) (subject : Option Value) : Bool := p.check subject p.args

def namedArgs (p : PredicateRule) : List Argument :=
  (p.parameters.zip p.args).map fun (parameter, v) => ⟨parameter.name, v⟩

def same (p q : PredicateRule) : Bool := p.name == q.name && p.args == q.args

end PredicateRule

structure Rule where
  key : String
  requiredness : Requiredness
  quantifier : Quantifier
  declaredType : Option DeclaredType
  predicates : List PredicateRule

namespace Rule

def emptyText (rule : Rule) : EmptyText := (rule.declaredType.map (·.emptyText)).getD .blank

def typeName (rule : Rule) : Option String := rule.declaredType.map (·.name)

def predicateNames (rule : Rule) : List String := rule.predicates.map (·.name)

def sameTypes : Option DeclaredType → Option DeclaredType → Bool
  | some s, some t => s.same t
  | none, none => true
  | _, _ => false

def samePredicates : List PredicateRule → List PredicateRule → Bool
  | [], [] => true
  | p :: ps, q :: qs => p.same q && samePredicates ps qs
  | _, _ => false

/-- Rules are the same when they ask the same of the same key; functions are not compared. -/
def same (r s : Rule) : Bool :=
  r.key == s.key && r.requiredness == s.requiredness && r.quantifier == s.quantifier
    && sameTypes r.declaredType s.declaredType && samePredicates r.predicates s.predicates

def sameAll : List Rule → List Rule → Bool
  | [], [] => true
  | r :: rs, s :: ss => r.same s && sameAll rs ss
  | _, _ => false

end Rule

end Conform
