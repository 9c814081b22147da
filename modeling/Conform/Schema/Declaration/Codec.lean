import Conform.Json.Literal
import Conform.Json.Printer
import Conform.Toml.Document
import Conform.Vocabulary
/-!
Declarations in documents. What has a default may be left out, and is left out in writing where it
is empty.
-/

namespace Conform

inductive TextFormat where
  | json
  | toml
  deriving DecidableEq, Repr

namespace TextFormat

def document? : TextFormat → String → Option Document
  | json, text => Json.document? text
  | toml, text => Toml.document? text

def format : TextFormat → Document.Format
  | json => Json.format
  | toml => Toml.format

end TextFormat

def fieldUnless (empty : Bool) (name : String) (d : Document) : List (String × Document) :=
  if empty then [] else [(name, d)]

namespace PredicateDeclaration

def ofDocument? (format : Document.Format) (d : Document) : Option PredicateDeclaration := do
  match ← d.fields? format ["name", "args"] with
  | [name, args] =>
    some ⟨← Document.required? Document.string? name,
      ← Document.defaulted? [] (Document.list? Value.ofDocument?) args⟩
  | _ => none

def document (d : PredicateDeclaration) : Document :=
  .object (("name", .string d.name)
    :: fieldUnless d.args.isEmpty "args" (.array (d.args.map Value.document)))

end PredicateDeclaration

namespace KeyDeclaration

def ofDocument? (format : Document.Format) (d : Document) : Option KeyDeclaration := do
  match ← d.fields? format ["key", "requiredness", "quantifier", "type", "predicates"] with
  | [key, requiredness, quantifier, type, predicates] =>
    some ⟨← Document.required? Document.string? key,
      ← Document.defaulted? .required (Vocabulary.ofDocument? format) requiredness,
      ← Document.defaulted? .value (Vocabulary.ofDocument? format) quantifier,
      ← Document.optional? Document.string? type,
      ← Document.defaulted? [] (Document.list? (PredicateDeclaration.ofDocument? format))
        predicates⟩
  | _ => none

def document (d : KeyDeclaration) : Document :=
  .object ([("key", .string d.key), ("requiredness", Vocabulary.document d.requiredness),
      ("quantifier", Vocabulary.document d.quantifier)]
    ++ (d.type.map fun t => ("type", Document.string t)).toList
    ++ fieldUnless d.predicates.isEmpty "predicates"
        (.array (d.predicates.map PredicateDeclaration.document)))

end KeyDeclaration

namespace SchemaDeclaration

def ofDocument? (format : Document.Format) (d : Document) : Option SchemaDeclaration := do
  match ← d.fields? format ["keys"] with
  | [keys] =>
    some ⟨← Document.defaulted? [] (Document.list? (KeyDeclaration.ofDocument? format)) keys⟩
  | _ => none

def document (s : SchemaDeclaration) : Document :=
  .object [("keys", .array (s.keys.map KeyDeclaration.document))]

def parse? (format : TextFormat) (text : String) : Option SchemaDeclaration :=
  (format.document? text).bind (ofDocument? format.format)

def print (s : SchemaDeclaration) : String := Json.print s.document

end SchemaDeclaration

end Conform
