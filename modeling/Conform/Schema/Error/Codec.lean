import Conform.Document
import Conform.Schema.Error
/-!
Schema errors in documents: an object with the name of the error, and its record under it.
-/

namespace Conform.SchemaError

def ofRecord? (format : Document.Format) (name : String) (d : Document) : Option SchemaError :=
  let text := Document.required? Document.string?
  let count := Document.required? Document.count?
  match name with
  | "DuplicateKey" => do
    match ← d.fields? format ["key"] with
    | [key] => some (duplicateKey (← text key))
    | _ => none
  | "UnknownType" => do
    match ← d.fields? format ["key", "type_name"] with
    | [key, type] => some (unknownType (← text key) (← text type))
    | _ => none
  | "UnknownPredicate" => do
    match ← d.fields? format ["key", "predicate"] with
    | [key, predicate] => some (unknownPredicate (← text key) (← text predicate))
    | _ => none
  | "ArityMismatch" => do
    match ← d.fields? format ["key", "predicate", "expected", "got"] with
    | [key, predicate, expected, got] =>
      some (arityMismatch (← text key) (← text predicate) (← count expected) (← count got))
    | _ => none
  | "InvalidArgument" => do
    match ← d.fields? format ["key", "predicate", "argument", "expected", "got"] with
    | [key, predicate, argument, expected, got] =>
      some (invalidArgument (← text key) (← text predicate) (← text argument) (← text expected)
        (← text got))
    | _ => none
  | "MissingTemplate" => do
    match ← d.fields? format ["key", "check"] with
    | [key, check] => some (missingTemplate (← text key) (← text check))
    | _ => none
  | _ => none

def ofDocument? (format : Document.Format) : Document → Option SchemaError
  | .object [(name, d)] => ofRecord? format name d
  | _ => none

def name : SchemaError → String
  | duplicateKey _ => "DuplicateKey"
  | unknownType _ _ => "UnknownType"
  | unknownPredicate _ _ => "UnknownPredicate"
  | arityMismatch _ _ _ _ => "ArityMismatch"
  | invalidArgument _ _ _ _ _ => "InvalidArgument"
  | missingTemplate _ _ => "MissingTemplate"

def fields : SchemaError → List (String × Document)
  | duplicateKey key => [("key", .string key)]
  | unknownType key type => [("key", .string key), ("type_name", .string type)]
  | unknownPredicate key predicate => [("key", .string key), ("predicate", .string predicate)]
  | arityMismatch key predicate expected got =>
    [("key", .string key), ("predicate", .string predicate), ("expected", .integer expected),
      ("got", .integer got)]
  | invalidArgument key predicate argument expected got =>
    [("key", .string key), ("predicate", .string predicate), ("argument", .string argument),
      ("expected", .string expected), ("got", .string got)]
  | missingTemplate key check => [("key", .string key), ("check", .string check)]

def document (e : SchemaError) : Document := .object [(e.name, .object e.fields)]

end Conform.SchemaError
