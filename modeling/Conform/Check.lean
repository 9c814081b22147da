import Conform.Value.Codec
/-!
What can fail about a key, and a failed check with the arguments that its message shows.
-/

namespace Conform

inductive Check where
  | keyPresence
  | quantifier
  | type (name : String)
  | predicate (name : String)
  deriving DecidableEq, Repr

namespace Check

def describe : Check → String
  | keyPresence => "key presence"
  | quantifier => "quantifier"
  | type name => "type '" ++ name ++ "'"
  | predicate name => "predicate '" ++ name ++ "'"

end Check

structure Argument where
  name : String
  value : Value

structure FailedCheck where
  check : Check
  args : List Argument

def FailedCheck.bare (check : Check) : FailedCheck := ⟨check, []⟩

end Conform
