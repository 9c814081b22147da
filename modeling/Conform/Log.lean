import Conform.Validation
/-!
What compiling and validating report to a log.
-/

namespace Conform

inductive LogLevel where
  | debug
  | trace
  deriving DecidableEq, Repr

def LogLevel.name : LogLevel → String
  | debug => "DEBUG"
  | trace => "TRACE"

inductive LogEvent where
  | folded (key predicate type : String)
  | keyCompiled (rule : Rule)
  | schemaCompiled (rules : Nat) (style : InputStyle)
  | halted (key stage : String)
  | keyEvaluated (key : String) (presence : PresenceKind) (failures : Nat)
  | validated (keys : Nat) (summary : String)

namespace LogEvent

def level : LogEvent → LogLevel
  | halted _ _ | keyEvaluated _ _ _ => .trace
  | _ => .debug

def escaped : Char → String
  | '"' => "\\\""
  | '\\' => "\\\\"
  | '\n' => "\\n"
  | '\r' => "\\r"
  | '\t' => "\\t"
  | c => String.singleton c

def quoted (s : String) : String := "\"" ++ String.join (s.toList.map escaped) ++ "\""

def requirednessTitle : Requiredness → String
  | .required => "Required"
  | .optional => "Optional"

def styleTitle : InputStyle → String
  | .params => "Params"
  | .json => "Json"

def typeText : Option String → String
  | none => "None"
  | some name => "Some(" ++ quoted name ++ ")"

def text : LogEvent → String
  | folded key predicate type =>
    "key '" ++ key ++ "': folded '" ++ predicate ++ "' into type '" ++ type ++ "'"
  | keyCompiled rule =>
    "key '" ++ rule.key ++ "': " ++ requirednessTitle rule.requiredness ++ " "
      ++ rule.quantifier.name ++ " type=" ++ typeText rule.typeName ++ " predicates=["
      ++ ", ".intercalate (rule.predicateNames.map quoted) ++ "]"
  | schemaCompiled rules style =>
    "compiled " ++ toString rules ++ " rule(s) for " ++ styleTitle style ++ " input"
  | halted key stage => "key '" ++ key ++ "': halted at " ++ stage
  | keyEvaluated key presence failures =>
    "key '" ++ key ++ "' (" ++ presence.name ++ "): " ++ toString failures ++ " failure(s)"
  | validated keys summary => "validated " ++ toString keys ++ " key(s): " ++ summary

end LogEvent

namespace Compile

def foldEvents (config : Config) (key : String) (type : Option DeclaredType) :
    List PredicateDeclaration → List LogEvent
  | [] => []
  | d :: ds =>
    match resolvePredicate config key d, type with
    | .ok p, some t =>
      if folds type p then .folded key p.name t.name :: foldEvents config key type ds
      else foldEvents config key type ds
    | .ok _, none => foldEvents config key type ds
    | .error _, _ => []

def keyEvents (config : Config) (d : KeyDeclaration) : List LogEvent :=
  match resolveType config d.key d.type with
  | .error _ => []
  | .ok type =>
    foldEvents config d.key type d.predicates
      ++ (match compileKey config d with
        | .ok rule => [.keyCompiled rule]
        | .error _ => [])

def keysEvents (config : Config) (seen : List String) : List KeyDeclaration → List LogEvent
  | [] => []
  | d :: ds =>
    if d.key ∈ seen then []
    else
      keyEvents config d
        ++ (match compileKey config d with
          | .ok _ => keysEvents config (d.key :: seen) ds
          | .error _ => [])

end Compile

namespace Schema

def compileEvents (declaration : SchemaDeclaration) (config : Config) : List LogEvent :=
  Compile.keysEvents config [] declaration.keys
    ++ (match compile declaration config with
      | .ok schema => [.schemaCompiled schema.rules.length config.style]
      | .error _ => [])

def ruleEvents (rule : Rule) (input : Input) : List LogEvent :=
  let (halt, e) := Pipeline.run rule Pipeline.standard (Evaluation.start rule input)
  (halt.map (LogEvent.halted rule.key)).toList
    ++ [.keyEvaluated rule.key e.presence.kind e.failures.length]

def validateEvents (schema : Schema) (input : Input) : List LogEvent :=
  schema.rules.flatMap (fun rule => ruleEvents rule input)
    ++ [.validated schema.rules.length (schema.validate input).summary]

end Schema

end Conform
