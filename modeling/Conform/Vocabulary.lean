import Conform.Document
import Conform.Input
import Conform.Predicate
import Conform.Schema.Declaration
/-!
Closed vocabularies: finite sets of alternatives, each with the word that stands for it in
documents.
-/

namespace Conform

class Vocabulary (α : Type) where
  all : List α
  word : α → String

namespace Vocabulary

variable {α : Type} [Vocabulary α]

def words : List (String × α) := all.map fun a => (word a, a)

def ofWord? (s : String) : Option α := words.lookup s

def ofDocument? (format : Document.Format) (d : Document) : Option α :=
  d.variant? format words

def document (a : α) : Document := .string (word a)

end Vocabulary

instance : Vocabulary ValueKind := ⟨ValueKind.all, ValueKind.name⟩

instance : Vocabulary PresenceKind := ⟨PresenceKind.all, PresenceKind.name⟩

instance : Vocabulary EmptyText := ⟨EmptyText.all, EmptyText.name⟩

instance : Vocabulary InputStyle := ⟨InputStyle.all, InputStyle.name⟩

instance : Vocabulary Category := ⟨Category.all, Category.name⟩

instance : Vocabulary ArgumentKind := ⟨ArgumentKind.all, ArgumentKind.name⟩

instance : Vocabulary Requiredness := ⟨Requiredness.all, Requiredness.name⟩

instance : Vocabulary Quantifier := ⟨Quantifier.all, Quantifier.name⟩

end Conform
