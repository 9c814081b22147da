import Conform.Message.TemplateSet
import Conform.Toml.Document
/-!
Template sets and arguments in documents.
-/

namespace Conform

namespace TemplateSet

def section? : Option Document → Option (OrderedMap String) :=
  Document.defaulted? OrderedMap.empty (Document.map? Document.string?)

def ofDocument? (format : Document.Format) (d : Document) : Option TemplateSet := do
  match ← d.fields? format ["checks", "types", "predicates"] with
  | [checks, types, predicates] =>
    some ⟨← section? checks, ← section? types, ← section? predicates⟩
  | _ => none

def sectionDocument (entries : OrderedMap String) : Document :=
  .object (entries.entries.map fun e => (e.1, .string e.2))

def document (set : TemplateSet) : Document :=
  .object [("checks", sectionDocument set.checks), ("types", sectionDocument set.types),
    ("predicates", sectionDocument set.predicates)]

def parse? (text : String) : Option TemplateSet :=
  (Toml.document? text).bind (ofDocument? Toml.format)

end TemplateSet

namespace Argument

def ofDocument? (format : Document.Format) (d : Document) : Option Argument := do
  match ← d.fields? format ["name", "value"] with
  | [name, v] =>
    some ⟨← Document.required? Document.string? name, ← Document.required? Value.ofDocument? v⟩
  | _ => none

def document (a : Argument) : Document :=
  .object [("name", .string a.name), ("value", a.value.document)]

end Argument

end Conform
