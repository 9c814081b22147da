import Conform.Presence
/-!
Declared types: how a value of a key is read as the type that the key is declared with.
-/

namespace Conform

structure DeclaredType where
  name : String
  typePredicate : String
  emptyText : EmptyText
  acceptsBlank : Bool
  parse : Value → Option Value

inductive TypedValue where
  | coerced (v : Value) (type : String)
  | failed (raw : Option Value)

namespace TypedValue

def isCoerced : TypedValue → Bool
  | coerced _ _ => true
  | failed _ => false

def subject : TypedValue → Option Value
  | coerced v _ => some v
  | failed raw => raw

end TypedValue

namespace DeclaredType

def coerce (type : DeclaredType) : Presence → TypedValue
  | .absent => .failed none
  | .null => .failed (some .null)
  | .blank raw => if type.acceptsBlank then typed raw else .failed (some raw)
  | .present raw => typed raw
where
  typed (raw : Value) : TypedValue :=
    match type.parse raw with
    | some v => .coerced v type.name
    | none => .failed (some raw)

def same (s t : DeclaredType) : Bool :=
  s.name == t.name && s.typePredicate == t.typePredicate && s.emptyText == t.emptyText
    && s.acceptsBlank == t.acceptsBlank

end DeclaredType

end Conform
