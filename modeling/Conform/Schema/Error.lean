/-!
Why a declaration is no schema.
-/

namespace Conform

inductive SchemaError where
  | duplicateKey (key : String)
  | unknownType (key type : String)
  | unknownPredicate (key predicate : String)
  | arityMismatch (key predicate : String) (expected got : Nat)
  | invalidArgument (key predicate argument expected got : String)
  | missingTemplate (key check : String)
  deriving DecidableEq, Repr

namespace SchemaError

def key : SchemaError → String
  | duplicateKey key | unknownType key _ | unknownPredicate key _ | arityMismatch key _ _ _
  | invalidArgument key _ _ _ _ | missingTemplate key _ => key

def message : SchemaError → String
  | duplicateKey key => "Key '" ++ key ++ "' is declared more than once"
  | unknownType key type => "Unknown type '" ++ type ++ "' declared for key '" ++ key ++ "'"
  | unknownPredicate key predicate =>
    "Unknown predicate '" ++ predicate ++ "' declared for key '" ++ key ++ "'"
  | arityMismatch key predicate expected got =>
    "Predicate '" ++ predicate ++ "' on key '" ++ key ++ "' takes " ++ toString expected
      ++ " argument(s), got " ++ toString got
  | invalidArgument key predicate argument expected got =>
    "Argument '" ++ argument ++ "' of '" ++ predicate ++ "' on key '" ++ key ++ "' must be "
      ++ expected ++ ", got " ++ got
  | missingTemplate key check =>
    "No message template for " ++ check ++ " (key '" ++ key ++ "')"

end SchemaError

end Conform
