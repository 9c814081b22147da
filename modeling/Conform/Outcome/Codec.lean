import Conform.Json.Printer
import Conform.Outcome
/-!
Checks, failures and outcomes in documents.
-/

namespace Conform

namespace Check

inductive Tag where
  | keyPresence
  | quantifier
  | type
  | predicate
  deriving DecidableEq, Repr

def tags : List (String × Tag) :=
  [("key_presence", .keyPresence), ("quantifier", .quantifier), ("type", .type),
    ("predicate", .predicate)]

def ofTag? : Tag → Option Document → Option Check
  | .keyPresence, none | .keyPresence, some .null => some keyPresence
  | .quantifier, none | .quantifier, some .null => some quantifier
  | .type, some (.string name) => some (type name)
  | .predicate, some (.string name) => some (predicate name)
  | _, _ => none

/-- A check is an object with a kind and a name, in any order, or a list of both. In the list the
kind is a plain word. -/
def ofDocument? (format : Document.Format) : Document → Option Check
  | .object entries => do
    let kind ← (← Document.unique? entries "kind")
    let tag ← kind.variant? format tags
    ofTag? tag (← Document.unique? entries "name")
  | .array [.string kind, name] => do ofTag? (← tags.lookup kind) (some name)
  | _ => none

def document : Check → Document
  | keyPresence => .object [("kind", .string "key_presence")]
  | quantifier => .object [("kind", .string "quantifier")]
  | type name => .object [("kind", .string "type"), ("name", .string name)]
  | predicate name => .object [("kind", .string "predicate"), ("name", .string name)]

end Check

namespace Failure

def ofDocument? (format : Document.Format) (d : Document) : Option Failure := do
  match ← d.fields? format ["key", "check", "message"] with
  | [key, check, message] =>
    some ⟨← Document.required? Document.string? key,
      ← Document.required? (Check.ofDocument? format) check,
      ← Document.required? Document.string? message⟩
  | _ => none

def document (f : Failure) : Document :=
  .object [("key", .string f.key), ("check", f.check.document), ("message", .string f.message)]

end Failure

namespace Outcome

def ofDocument? (format : Document.Format) (d : Document) : Option Outcome := do
  match ← d.fields? format ["successful", "messages", "failures"] with
  | [successful, messages, failures] =>
    some ⟨← Document.required? Document.boolean? successful,
      ← Document.required? (Document.map? (Document.list? Document.string?)) messages,
      ← Document.required? (Document.list? (Failure.ofDocument? format)) failures⟩
  | _ => none

def document (o : Outcome) : Document :=
  .object [("successful", .boolean o.successful),
    ("messages", .object (o.messages.entries.map fun e => (e.1, .array (e.2.map .string)))),
    ("failures", .array (o.failures.map Failure.document))]

end Outcome

end Conform
