import Conform.Decimal.Numeral
/-!
The grammar of JSON texts. Reading a text gives what it spells: a tree whose literals are well
formed and not yet given a meaning.
-/

namespace Conform.Json

inductive Letter where
  | char (c : Char)
  | unit (n : Nat)

structure Numeral where
  negative : Bool
  whole : List Char
  fraction : List Char
  exponent : Option Int

inductive Raw where
  | null
  | boolean (b : Bool)
  | number (n : Numeral)
  | string (letters : List Letter)
  | array (items : List Raw)
  | object (entries : List (List Letter × Raw))

instance : Inhabited Raw := ⟨.null⟩

def isBlank (c : Char) : Bool := c == ' ' || c == '\t' || c == '\n' || c == '\r'

def skipBlanks (text : List Char) : List Char := text.dropWhile isBlank

def hexDigit? (c : Char) : Option Nat :=
  if c.isDigit then some (c.toNat - 48)
  else if 'a' ≤ c ∧ c ≤ 'f' then some (c.toNat - 87)
  else if 'A' ≤ c ∧ c ≤ 'F' then some (c.toNat - 55)
  else none

def hexValue? (digits : List Char) : Option Nat :=
  digits.foldlM (fun n c => (hexDigit? c).map (16 * n + ·)) 0

def escape? : Char → Option Char
  | '"' => some '"'
  | '\\' => some '\\'
  | '/' => some '/'
  | 'b' => some '\x08'
  | 'f' => some '\x0c'
  | 'n' => some '\n'
  | 'r' => some '\r'
  | 't' => some '\t'
  | _ => none

def letters? : List Char → Option (List Letter × List Char)
  | [] => none
  | '"' :: text => some ([], text)
  | '\\' :: 'u' :: a :: b :: c :: d :: text => do
    let n ← hexValue? [a, b, c, d]
    let (ls, text) ← letters? text
    some (.unit n :: ls, text)
  | '\\' :: e :: text => do
    let c ← escape? e
    let (ls, text) ← letters? text
    some (.char c :: ls, text)
  | c :: text => do
    guard (32 ≤ c.toNat)
    let (ls, text) ← letters? text
    some (.char c :: ls, text)

def fraction? : List Char → Option (List Char × List Char)
  | '.' :: text =>
    let (digits, text) := Decimal.splitDigits text
    if digits.isEmpty then none else some (digits, text)
  | text => some ([], text)

def exponent? : List Char → Option (Option Int × List Char)
  | c :: text =>
    if c = 'e' ∨ c = 'E' then
      let (negative, text) := Decimal.splitSign text
      let (digits, text) := Decimal.splitDigits text
      if digits.isEmpty then none
      else some (some (Decimal.signed negative (Decimal.value digits)), text)
    else some (none, c :: text)
  | [] => some (none, [])

def whole? (text : List Char) : Option (List Char × List Char) :=
  match Decimal.splitDigits text with
  | ([], _) => none
  | ('0' :: _ :: _, _) => none
  | (digits, text) => some (digits, text)

def number? (text : List Char) : Option (Numeral × List Char) := do
  let (negative, text) := match text with
    | '-' :: text => (true, text)
    | text => (false, text)
  let (whole, text) ← whole? text
  let (fraction, text) ← fraction? text
  let (exponent, text) ← exponent? text
  some (⟨negative, whole, fraction, exponent⟩, text)

mutual

def value? : Nat → List Char → Option (Raw × List Char)
  | 0, _ => none
  | fuel + 1, text =>
    match skipBlanks text with
    | 'n' :: 'u' :: 'l' :: 'l' :: text => some (.null, text)
    | 't' :: 'r' :: 'u' :: 'e' :: text => some (.boolean true, text)
    | 'f' :: 'a' :: 'l' :: 's' :: 'e' :: text => some (.boolean false, text)
    | '"' :: text => (letters? text).map fun (ls, text) => (.string ls, text)
    | '[' :: text =>
      match skipBlanks text with
      | ']' :: text => some (.array [], text)
      | text => (items? fuel text).map fun (vs, text) => (.array vs, text)
    | '\x7b' :: text =>
      match skipBlanks text with
      | '\x7d' :: text => some (.object [], text)
      | text => (members? fuel text).map fun (es, text) => (.object es, text)
    | text => (number? text).map fun (n, text) => (.number n, text)

def items? : Nat → List Char → Option (List Raw × List Char)
  | 0, _ => none
  | fuel + 1, text => do
    let (v, text) ← value? fuel text
    match skipBlanks text with
    | ',' :: text => (items? fuel text).map fun (vs, text) => (v :: vs, text)
    | ']' :: text => some ([v], text)
    | _ => none

def members? : Nat → List Char → Option (List (List Letter × Raw) × List Char)
  | 0, _ => none
  | fuel + 1, text =>
    match skipBlanks text with
    | '"' :: text => do
      let (name, text) ← letters? text
      match skipBlanks text with
      | ':' :: text => do
        let (v, text) ← value? fuel text
        match skipBlanks text with
        | ',' :: text => (members? fuel text).map fun (es, text) => ((name, v) :: es, text)
        | '\x7d' :: text => some ([(name, v)], text)
        | _ => none
      | _ => none
    | _ => none

end

/-- One value and nothing but blanks around it. Each step takes a character off or descends once
before it does, so twice the length bounds their number. -/
def parse? (text : String) : Option Raw :=
  match value? (2 * text.toList.length + 1) text.toList with
  | some (v, rest) => if (skipBlanks rest).isEmpty then some v else none
  | none => none

end Conform.Json
