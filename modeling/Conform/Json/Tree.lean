import Conform.Json.Literal
import Conform.Value
/-!
JSON documents as a tree of their own, in which the names of an object are distinct, and the value
that such a tree stands for.
-/

namespace Conform.Json

inductive Tree where
  | null
  | boolean (b : Bool)
  | number (n : Number)
  | string (s : String)
  | array (items : List Tree)
  | object (entries : List (String × Tree))

namespace Raw

mutual

def tree? (room : Nat) : Raw → Option Tree
  | null => some .null
  | boolean b => some (.boolean b)
  | number n => n.number?.map .number
  | string ls => (string? ls).map .string
  | array items =>
    match room with
    | 0 => none
    | room + 1 => (trees? room items).map .array
  | object entries =>
    match room with
    | 0 => none
    | room + 1 => (treesOf? room [] entries).map .object

def trees? (room : Nat) : List Raw → Option (List Tree)
  | [] => some []
  | r :: rs =>
    match tree? room r, trees? room rs with
    | some t, some ts => some (t :: ts)
    | _, _ => none

def treesOf? (room : Nat) (acc : Entries Tree) : List (List Letter × Raw) → Option (Entries Tree)
  | [] => some acc
  | (name, r) :: es =>
    match string? name, tree? room r with
    | some key, some t => treesOf? room (Entries.insert acc key t) es
    | _, _ => none

end

end Raw

def tree? (text : String) : Option Tree := (parse? text).bind (Raw.tree? depthLimit)

def Number.value : Number → Value
  | integer n =>
    match Decimal.int64? n with
    | some m => .integer m
    | none => .float (Float.ofInt n)
  | float x => .float x

namespace Tree

mutual

def value : Tree → Value
  | null => .null
  | boolean b => .boolean b
  | number n => n.value
  | string s => .string s
  | array items => .array (values items)
  | object entries => .map (valuesOf entries)

def values : List Tree → List Value
  | [] => []
  | t :: ts => value t :: values ts

def valuesOf : List (String × Tree) → List (String × Value)
  | [] => []
  | (name, t) :: es => (name, value t) :: valuesOf es

end

end Tree

end Conform.Json
