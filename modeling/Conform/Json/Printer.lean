import Conform.Decimal.Notation
import Conform.Document
/-!
Writing documents as JSON: without blanks, or on many lines for people.
-/

namespace Conform.Json

def numberStyle : Decimal.Style where
  tie := .even
  positional := fun e => -5 ≤ e && e < 16
  pointZero := true

def nullText : List Char := ['n', 'u', 'l', 'l']

def booleanText (b : Bool) : List Char :=
  if b then ['t', 'r', 'u', 'e'] else ['f', 'a', 'l', 's', 'e']

def floatText (x : Float) : List Char :=
  if x.isFinite then Decimal.render numberStyle x else nullText

def integerText (n : Int) : List Char :=
  if n < 0 then '-' :: Nat.toDigits 10 n.natAbs else Nat.toDigits 10 n.natAbs

def escaped (c : Char) : List Char :=
  match c with
  | '"' => ['\\', '"']
  | '\\' => ['\\', '\\']
  | '\x08' => ['\\', 'b']
  | '\t' => ['\\', 't']
  | '\n' => ['\\', 'n']
  | '\x0c' => ['\\', 'f']
  | '\r' => ['\\', 'r']
  | c =>
    if c.toNat < 32 then
      ['\\', 'u', '0', '0', Nat.digitChar (c.toNat / 16), Nat.digitChar (c.toNat % 16)]
    else [c]

def quoted (s : String) : List Char := '"' :: s.toList.flatMap escaped ++ ['"']

def separated (sep : List Char) : List (List Char) → List Char
  | [] => []
  | [t] => t
  | t :: ts => t ++ sep ++ separated sep ts

mutual

def compact : Document → List Char
  | .null | .unreadable => nullText
  | .boolean b => booleanText b
  | .integer n => integerText n
  | .float x => floatText x
  | .string s => quoted s
  | .array items => '[' :: separated [','] (compactItems items) ++ [']']
  | .object entries => '\x7b' :: separated [','] (compactEntries entries) ++ ['\x7d']

def compactItems : List Document → List (List Char)
  | [] => []
  | d :: ds => compact d :: compactItems ds

def compactEntries : List (String × Document) → List (List Char)
  | [] => []
  | (name, d) :: es => (quoted name ++ ':' :: compact d) :: compactEntries es

end

def print (d : Document) : String := String.ofList (compact d)

def indent (depth : Nat) : List Char := List.replicate (2 * depth) ' '

def block (depth : Nat) (opening closing : Char) : List (List Char) → List Char
  | [] => [opening, closing]
  | parts =>
    opening :: '\n' :: indent (depth + 1) ++ separated (',' :: '\n' :: indent (depth + 1)) parts
      ++ '\n' :: indent depth ++ [closing]

mutual

def spread (depth : Nat) : Document → List Char
  | .array items => block depth '[' ']' (spreadItems (depth + 1) items)
  | .object entries => block depth '\x7b' '\x7d' (spreadEntries (depth + 1) entries)
  | d => compact d

def spreadItems (depth : Nat) : List Document → List (List Char)
  | [] => []
  | d :: ds => spread depth d :: spreadItems depth ds

def spreadEntries (depth : Nat) : List (String × Document) → List (List Char)
  | [] => []
  | (name, d) :: es => (quoted name ++ ':' :: ' ' :: spread depth d) :: spreadEntries depth es

end

def pretty (d : Document) : String := String.ofList (spread 0 d)

end Conform.Json
