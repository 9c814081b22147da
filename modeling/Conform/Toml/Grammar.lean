import Conform.Toml.Scalar
import Conform.Toml.Table
/-!
The grammar of TOML texts: a list of statements, each of which assigns a value to a key or opens a
table.
-/

namespace Conform.Toml

abbrev Key := List String × String

inductive Statement where
  | assign (key : Key) (content : Document)
  | table (key : Key)
  | item (key : Key)

/-- Arrays and inline tables inside one another, and the parts of a key, stay below this number. -/
def depthLimit : Nat := 80

def isBareKeyChar (c : Char) : Bool := c.isAlphanum || c == '-' || c == '_'

def simpleKey? : List Char → Option (String × List Char)
  | '"' :: text => (basic? text).map fun (s, rest) => (String.ofList s, rest)
  | '\'' :: text => (literal? text).map fun (s, rest) => (String.ofList s, rest)
  | text =>
    let name := text.takeWhile isBareKeyChar
    if name.isEmpty then none else some (String.ofList name, text.dropWhile isBareKeyChar)

def parts? : Nat → List Char → Option (List String × List Char)
  | 0, _ => none
  | fuel + 1, text => do
    let (part, text) ← simpleKey? (skipBlanks text)
    match skipBlanks text with
    | '.' :: text => (parts? fuel text).map fun (parts, rest) => (part :: parts, rest)
    | text => some ([part], text)

def key? (text : List Char) : Option (Key × List Char) := do
  let (parts, text) ← parts? text.length text
  guard (parts.length < depthLimit)
  some ((parts.dropLast, ← parts.getLast?), text)

def skipLines : Nat → List Char → List Char
  | 0, text => text
  | fuel + 1, text =>
    let text := skipComment (skipBlanks text)
    match newline? text with
    | some text => skipLines fuel text
    | none => text

def inlineTable? (pairs : List (Key × Document)) : Option Document :=
  let add (es : Entries Node) (pair : Key × Document) : Option (Entries Node) :=
    assign es pair.1.1 pair.1.2 (.leaf pair.2)
  (pairs.foldlM add []).map fun es => .object (Node.documentsOf es)

mutual

def value? (room : Nat) : Nat → List Char → Option (Document × List Char)
  | 0, _ => none
  | fuel + 1, text =>
    match text with
    | 't' :: 'r' :: 'u' :: 'e' :: text => some (.boolean true, text)
    | 'f' :: 'a' :: 'l' :: 's' :: 'e' :: text => some (.boolean false, text)
    | '[' :: text =>
      match room with
      | 0 => none
      | room + 1 => (items? room fuel text).map fun (ds, rest) => (.array ds, rest)
    | '\x7b' :: text =>
      match room with
      | 0 => none
      | room + 1 => do
        let (pairs, rest) ← match skipBlanks text with
          | '\x7d' :: text => some ([], text)
          | text => pairs? room fuel text
        some (← inlineTable? pairs, rest)
    | c :: text =>
      if c = '"' ∨ c = '\'' then
        (string? (c :: text)).map fun (s, rest) => (.string (String.ofList s), rest)
      else numberOrMoment? (c :: text)
    | [] => none

def items? (room : Nat) : Nat → List Char → Option (List Document × List Char)
  | 0, _ => none
  | fuel + 1, text =>
    match skipLines text.length text with
    | ']' :: text => some ([], text)
    | text => do
      let (d, text) ← value? room fuel text
      match skipLines text.length text with
      | ',' :: text => (items? room fuel text).map fun (ds, rest) => (d :: ds, rest)
      | ']' :: text => some ([d], text)
      | _ => none

def pairs? (room : Nat) : Nat → List Char → Option (List (Key × Document) × List Char)
  | 0, _ => none
  | fuel + 1, text => do
    let (key, text) ← key? text
    let (d, text) ← value? room fuel (skipBlanks (← expect? '=' text))
    match skipBlanks text with
    | ',' :: text => (pairs? room fuel text).map fun (ps, rest) => ((key, d) :: ps, rest)
    | '\x7d' :: text => some ([(key, d)], text)
    | _ => none

end

def statement? (text : List Char) : Option (Statement × List Char) :=
  match text with
  | '[' :: '[' :: text => do
    let (key, text) ← key? text
    let text ← expect? ']' (← expect? ']' text)
    some (.item key, ← lineEnd? text)
  | '[' :: text => do
    let (key, text) ← key? text
    let text ← expect? ']' text
    some (.table key, ← lineEnd? text)
  | text => do
    let (key, text) ← key? text
    let text ← expect? '=' text
    let (d, text) ← value? (depthLimit - 1) (2 * text.length + 1) (skipBlanks text)
    some (.assign key d, ← lineEnd? text)

def statements? : Nat → List Char → Option (List Statement)
  | 0, _ => none
  | fuel + 1, text =>
    let text := skipBlanks text
    if text.isEmpty then some []
    else
      match lineEnd? text with
      | some rest => statements? fuel rest
      | none => do
        let (s, rest) ← statement? text
        some (s :: (← statements? fuel rest))

def parse? (text : String) : Option (List Statement) :=
  let chars := match text.toList with
    | '\uFEFF' :: chars => chars
    | chars => chars
  statements? (chars.length + 1) chars

end Conform.Toml
