import Conform.OrderedMap
/-!
The values that are validated: loosely typed data of seven kinds.
-/

namespace Conform

inductive Value where
  | null
  | boolean (b : Bool)
  | integer (n : Int64)
  | float (x : Float)
  | string (s : String)
  | array (items : List Value)
  | map (entries : List (String × Value))

inductive ValueKind where
  | null
  | boolean
  | integer
  | float
  | string
  | array
  | map
  deriving DecidableEq, Repr

namespace ValueKind

def all : List ValueKind := [null, boolean, integer, float, string, array, map]

def name : ValueKind → String
  | null => "null"
  | boolean => "boolean"
  | integer => "integer"
  | float => "float"
  | string => "string"
  | array => "array"
  | map => "map"

end ValueKind

namespace Value

instance : Inhabited Value := ⟨null⟩

def kind : Value → ValueKind
  | null => .null
  | boolean _ => .boolean
  | integer _ => .integer
  | float _ => .float
  | string _ => .string
  | array _ => .array
  | map _ => .map

def isNull : Value → Bool
  | null => true
  | _ => false

def isEmpty : Value → Bool
  | string s => s.isEmpty
  | array items => items.isEmpty
  | map entries => entries.isEmpty
  | _ => false

def isNumber : Value → Bool
  | integer _ | float _ => true
  | _ => false

def integer? : Value → Option Int64
  | integer n => some n
  | _ => none

def float? : Value → Option Float
  | float x => some x
  | integer n => some n.toFloat
  | _ => none

def string? : Value → Option String
  | string s => some s
  | _ => none

def boolean? : Value → Option Bool
  | boolean b => some b
  | _ => none

def array? : Value → Option (List Value)
  | array items => some items
  | _ => none

def map? : Value → Option (Entries Value)
  | map entries => some entries
  | _ => none

def size : Value → Option Nat
  | string s => some s.length
  | array items => some items.length
  | map entries => some entries.length
  | _ => none

def ofEntries (entries : Entries Value) : Value := map (Entries.ofList entries)

def ofCount (n : Nat) : Value := integer (Int64.ofNat n)

def ofOption (v : Option Value) : Value := v.getD null

end Value

end Conform
