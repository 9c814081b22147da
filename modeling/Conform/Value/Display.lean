import Conform.Value
import Conform.Decimal.Notation
/-!
The text of a value in a message.
-/

namespace Conform.Value

/-- Floats in messages never have an exponent, and whole ones no point; of two equally short
neighbours the upper one is taken. -/
def floatStyle : Decimal.Style where
  tie := .up
  positional := fun _ => true
  pointZero := false

def floatText (x : Float) : String :=
  if x.isNaN then "NaN"
  else if x.isInf then (if x < 0 then "-inf" else "inf")
  else String.ofList (Decimal.render floatStyle x)

def booleanText (b : Bool) : String := if b then "true" else "false"

mutual

def display : Value → String
  | null => "nil"
  | boolean b => booleanText b
  | integer n => toString n.toInt
  | float x => floatText x
  | string s => s
  | array items => ", ".intercalate (displayItems items)
  | map entries => "\x7b" ++ ", ".intercalate (displayEntries entries) ++ "\x7d"

def displayItems : List Value → List String
  | [] => []
  | v :: vs => display v :: displayItems vs

def displayEntries : List (String × Value) → List String
  | [] => []
  | (key, v) :: es => (key ++ ": " ++ display v) :: displayEntries es

end

end Conform.Value
