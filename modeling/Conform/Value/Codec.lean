import Conform.Value
import Conform.Document
import Conform.Decimal.Numeral
/-!
Values in documents: reading one out of a document, and the document that spells a value.
-/

namespace Conform.Value

mutual

/-- The kinds are tried in order, so a number that fits 64 signed bits is an integer and any other
one a float. Everything inside has to be readable. -/
def ofDocument? : Document → Option Value
  | .null => some null
  | .boolean b => some (boolean b)
  | .integer n =>
    match Decimal.int64? n with
    | some m => some (integer m)
    | none => some (float (Float.ofInt n))
  | .float x => some (float x)
  | .string s => some (string s)
  | .array items => (ofDocuments? items).map array
  | .object entries => (ofFields? entries).map ofEntries
  | .unreadable => none

def ofDocuments? : List Document → Option (List Value)
  | [] => some []
  | d :: ds =>
    match ofDocument? d, ofDocuments? ds with
    | some v, some vs => some (v :: vs)
    | _, _ => none

def ofFields? : List (String × Document) → Option (List (String × Value))
  | [] => some []
  | (name, d) :: es =>
    match ofDocument? d, ofFields? es with
    | some v, some rest => some ((name, v) :: rest)
    | _, _ => none

end

mutual

def document : Value → Document
  | null => .null
  | boolean b => .boolean b
  | integer n => .integer n.toInt
  | float x => .float x
  | string s => .string s
  | array items => .array (documents items)
  | map entries => .object (documentsOf entries)

def documents : List Value → List Document
  | [] => []
  | v :: vs => document v :: documents vs

def documentsOf : List (String × Value) → List (String × Document)
  | [] => []
  | (name, v) :: es => (name, document v) :: documentsOf es

end

end Conform.Value
