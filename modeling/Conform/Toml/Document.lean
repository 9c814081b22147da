import Conform.Toml.Grammar
/-!
The document of a TOML text.
-/

namespace Conform.Toml

def Build.add (b : Build) : Statement → Option Build
  | .assign key d => b.assign key.1 key.2 d
  | .table key => b.openTable key.1 key.2
  | .item key => b.openItem key.1 key.2

def build? (statements : List Statement) : Option Document := do
  let b ← statements.foldlM Build.add Build.start
  some (.object (Node.documentsOf (← b.close)))

def document? (text : String) : Option Document := (parse? text).bind build?

def format : Document.Format where
  isUnit
    | .object entries => entries.isEmpty
    | .array items => items.isEmpty
    | _ => false
  allowsSurplus := true

end Conform.Toml
