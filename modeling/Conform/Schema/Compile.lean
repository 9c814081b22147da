import Conform.Schema.Config
import Conform.Schema.Error
import Conform.Schema.Rule
/-!
Compiling declarations into rules. Every name is looked up, arguments are held against the
parameters of their predicate, and each check that a key can fail has to have a template. The
first fault in the order of declaration is the error.
-/

namespace Conform

namespace Compile

def resolveType (config : Config) (key : String) :
    Option String → Except SchemaError (Option DeclaredType)
  | none => .ok none
  | some name =>
    match config.types.get? name with
    | some type => .ok (some type)
    | none => .error (.unknownType key name)

def badArgument? (parameters : List Parameter) (args : List Value) : Option (Parameter × Value) :=
  (parameters.zip args).find? fun (parameter, v) => !parameter.kind.accepts v

def resolvePredicate (config : Config) (key : String) (d : PredicateDeclaration) :
    Except SchemaError PredicateRule :=
  match config.predicates.get? d.name with
  | none => .error (.unknownPredicate key d.name)
  | some p =>
    if d.args.length ≠ p.arity then .error (.arityMismatch key p.name p.arity d.args.length)
    else
      match badArgument? p.parameters d.args with
      | some (parameter, v) =>
        .error (.invalidArgument key p.name parameter.name parameter.kind.description v.kind.name)
      | none => .ok ⟨p.name, d.args, p.parameters, p.check⟩

def folds (type : Option DeclaredType) (p : PredicateRule) : Bool :=
  type.any fun t => p.name == t.typePredicate

def resolvePredicates (config : Config) (key : String) (type : Option DeclaredType) :
    List PredicateDeclaration → Except SchemaError (List PredicateRule)
  | [] => .ok []
  | d :: ds =>
    match resolvePredicate config key d with
    | .error e => .error e
    | .ok p =>
      match resolvePredicates config key type ds with
      | .error e => .error e
      | .ok ps => .ok (if folds type p then ps else p :: ps)

def possibleChecks (rule : Rule) : List Check :=
  (if rule.requiredness = .required then [.keyPresence] else [])
    ++ (if rule.quantifier = .filled then [.quantifier] else [])
    ++ (rule.typeName.map Check.type).toList
    ++ rule.predicateNames.map Check.predicate

def checkTemplates (templates : TemplateSet) (rule : Rule) : Except SchemaError Rule :=
  match (possibleChecks rule).find? fun check => !templates.has check with
  | some check => .error (.missingTemplate rule.key check.describe)
  | none => .ok rule

def compileKey (config : Config) (d : KeyDeclaration) : Except SchemaError Rule :=
  match resolveType config d.key d.type with
  | .error e => .error e
  | .ok type =>
    match resolvePredicates config d.key type d.predicates with
    | .error e => .error e
    | .ok predicates =>
      checkTemplates config.templates ⟨d.key, d.requiredness, d.quantifier, type, predicates⟩

def compileKeys (config : Config) (seen : List String) :
    List KeyDeclaration → Except SchemaError (List Rule)
  | [] => .ok []
  | d :: ds =>
    if d.key ∈ seen then .error (.duplicateKey d.key)
    else
      match compileKey config d with
      | .error e => .error e
      | .ok rule =>
        match compileKeys config (d.key :: seen) ds with
        | .error e => .error e
        | .ok rules => .ok (rule :: rules)

end Compile

structure Schema where
  rules : List Rule
  style : InputStyle
  templates : TemplateSet

namespace Schema

def compile (declaration : SchemaDeclaration) (config : Config) : Except SchemaError Schema :=
  match Compile.compileKeys config [] declaration.keys with
  | .error e => .error e
  | .ok rules => .ok ⟨rules, config.style, config.templates⟩

def rule? (schema : Schema) (key : String) : Option Rule :=
  schema.rules.find? fun rule => rule.key == key

end Schema

end Conform
