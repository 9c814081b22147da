import Conform.Json.Grammar
/-!
Blanks, comments and strings of TOML texts.
-/

namespace Conform.Toml

def isBlank (c : Char) : Bool := c == ' ' || c == '\t'

def skipBlanks (text : List Char) : List Char := text.dropWhile isBlank

def isPlain (c : Char) : Bool := c == '\t' || 32 ≤ c.toNat && c.toNat != 127

def newline? : List Char → Option (List Char)
  | '\n' :: text => some text
  | '\r' :: '\n' :: text => some text
  | _ => none

def skipComment : List Char → List Char
  | '#' :: text => text.dropWhile isPlain
  | text => text

def lineEnd? (text : List Char) : Option (List Char) :=
  match skipComment (skipBlanks text) with
  | [] => some []
  | text => newline? text

def charOfNumber? (n : Nat) : Option Char :=
  if n < 0xD800 ∨ 0xE000 ≤ n ∧ n < 0x110000 then some (Char.ofNat n) else none

def escapedChar? : Char → Option Char
  | 'b' => some '\x08'
  | 'f' => some '\x0c'
  | 'n' => some '\n'
  | 'r' => some '\r'
  | 't' => some '\t'
  | '"' => some '"'
  | '\\' => some '\\'
  | _ => none

def escape? : List Char → Option (Char × List Char)
  | 'u' :: a :: b :: c :: d :: text => do
    let n ← Json.hexValue? [a, b, c, d]
    some (← charOfNumber? n, text)
  | 'U' :: a :: b :: c :: d :: e :: f :: g :: h :: text => do
    let n ← Json.hexValue? [a, b, c, d, e, f, g, h]
    some (← charOfNumber? n, text)
  | c :: text => do some (← escapedChar? c, text)
  | [] => none

theorem escape?_length {text rest : List Char} {c : Char} (h : escape? text = some (c, rest)) :
    rest.length < text.length := by
  unfold escape? at h
  split at h <;> simp only [Option.bind_eq_bind, Option.bind_eq_some_iff, Option.some.injEq,
    Prod.mk.injEq, reduceCtorEq] at h
  · obtain ⟨n, _, d, _, _, rfl⟩ := h
    simp only [List.length_cons]
    omega
  · obtain ⟨n, _, d, _, _, rfl⟩ := h
    simp only [List.length_cons]
    omega
  · obtain ⟨d, _, _, rfl⟩ := h
    simp only [List.length_cons]
    omega

def basic? (text : List Char) : Option (List Char × List Char) :=
  match text with
  | [] => none
  | '"' :: text => some ([], text)
  | '\\' :: text =>
    match _h : escape? text with
    | some (c, rest) => (basic? rest).map fun (s, rest) => (c :: s, rest)
    | none => none
  | c :: text =>
    if isPlain c then (basic? text).map fun (s, rest) => (c :: s, rest) else none
termination_by text.length
decreasing_by
  all_goals simp only [List.length_cons]
  · have := escape?_length _h
    omega
  · omega

def literal? : List Char → Option (List Char × List Char)
  | [] => none
  | '\'' :: text => some ([], text)
  | c :: text =>
    if isPlain c then (literal? text).map fun (s, rest) => (c :: s, rest) else none

def skipFirstBreak (text : List Char) : List Char := (newline? text).getD text

/-- A string in three double quotes. Up to two quotes may stand in front of the closing three.
Behind a backslash at the end of a line all blanks and line breaks are `skipping`. -/
def basicLines? (skipping : Bool) (text : List Char) : Option (List Char × List Char) :=
  match text with
  | [] => none
  | '\n' :: text => add (if skipping then [] else ['\n']) (basicLines? skipping text)
  | '\r' :: '\n' :: text => add (if skipping then [] else ['\n']) (basicLines? skipping text)
  | '"' :: '"' :: '"' :: '"' :: '"' :: text => some (['"', '"'], text)
  | '"' :: '"' :: '"' :: '"' :: text => some (['"'], text)
  | '"' :: '"' :: '"' :: text => some ([], text)
  | '\\' :: text =>
    if (newline? (skipBlanks text)).isSome then basicLines? true text
    else
      match _h : escape? text with
      | some (c, rest) => add [c] (basicLines? false rest)
      | none => none
  | c :: text =>
    if skipping && isBlank c then basicLines? true text
    else if isPlain c then add [c] (basicLines? false text)
    else none
termination_by text.length
decreasing_by
  all_goals simp only [List.length_cons]
  all_goals try omega
  have := escape?_length _h
  omega
where
  add (front : List Char) (read : Option (List Char × List Char)) :
      Option (List Char × List Char) :=
    read.map fun (s, rest) => (front ++ s, rest)

def literalLines? : List Char → Option (List Char × List Char)
  | [] => none
  | '\n' :: text => (literalLines? text).map fun (s, rest) => ('\n' :: s, rest)
  | '\r' :: '\n' :: text => (literalLines? text).map fun (s, rest) => ('\n' :: s, rest)
  | '\'' :: '\'' :: '\'' :: '\'' :: '\'' :: text => some (['\'', '\''], text)
  | '\'' :: '\'' :: '\'' :: '\'' :: text => some (['\''], text)
  | '\'' :: '\'' :: '\'' :: text => some ([], text)
  | c :: text =>
    if isPlain c then (literalLines? text).map fun (s, rest) => (c :: s, rest) else none

def string? : List Char → Option (List Char × List Char)
  | '"' :: '"' :: '"' :: text => basicLines? false (skipFirstBreak text)
  | '"' :: text => basic? text
  | '\'' :: '\'' :: '\'' :: text => literalLines? (skipFirstBreak text)
  | '\'' :: text => literal? text
  | _ => none

end Conform.Toml
