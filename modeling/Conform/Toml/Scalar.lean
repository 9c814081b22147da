import Conform.Document
import Conform.Toml.Text
/-!
Numbers, dates and times of TOML texts.
-/

namespace Conform.Toml

def moreDigits? (isDigit : Char → Bool) : List Char → Option (List Char × List Char)
  | [] => some ([], [])
  | ['_'] => none
  | '_' :: c :: text =>
    if isDigit c then (moreDigits? isDigit text).map fun (ds, rest) => (c :: ds, rest) else none
  | c :: text =>
    if isDigit c then (moreDigits? isDigit text).map fun (ds, rest) => (c :: ds, rest)
    else some ([], c :: text)

def digits? (isDigit : Char → Bool) : List Char → Option (List Char × List Char)
  | [] => none
  | c :: text =>
    if isDigit c then (moreDigits? isDigit text).map fun (ds, rest) => (c :: ds, rest) else none

def whole? : List Char → Option (List Char × List Char)
  | '0' :: text => some (['0'], text)
  | text => digits? Char.isDigit text

def fraction? : List Char → Option (List Char × List Char)
  | '.' :: text => digits? Char.isDigit text
  | text => some ([], text)

def exponent? : List Char → Option (Option Int × List Char)
  | c :: text =>
    if c = 'e' ∨ c = 'E' then
      let (negative, text) := Decimal.splitSign text
      (digits? Char.isDigit text).map fun (ds, rest) =>
        (some (Decimal.signed negative (Decimal.value ds)), rest)
    else some (none, c :: text)
  | [] => some (none, [])

def integer? (n : Int) : Option Document := (Decimal.int64? n).map fun m => .integer m.toInt

/-- A float too large for the finite ones is refused where it is positive. -/
def float? (negative : Bool) (d : Decimal.Scientific) : Option Document :=
  let x := d.toFloat
  if x.isInf && !negative then none else some (.float (Decimal.signedFloat negative x))

def decimal? (negative : Bool) (text : List Char) : Option (Document × List Char) := do
  let (whole, text) ← whole? text
  let (fraction, text) ← fraction? text
  let (exponent, text) ← exponent? text
  let d ← if fraction.isEmpty && exponent.isNone
    then integer? (Decimal.signed negative (Decimal.value whole))
    else float? negative ⟨whole, fraction, exponent.getD 0⟩
  some (d, text)

def signedNumber? (negative : Bool) : List Char → Option (Document × List Char)
  | 'i' :: 'n' :: 'f' :: text =>
    some (.float (Decimal.signedFloat negative Decimal.infinity), text)
  | 'n' :: 'a' :: 'n' :: text => some (.float (Decimal.signedFloat negative Decimal.nan), text)
  | text => decimal? negative text

def digitBelow (base : Nat) (c : Char) : Bool := (Json.hexDigit? c).any (· < base)

def valueIn (base : Nat) (digits : List Char) : Nat :=
  digits.foldl (fun n c => base * n + (Json.hexDigit? c).getD 0) 0

def radix? (base : Nat) (text : List Char) : Option (Document × List Char) := do
  let (ds, text) ← digits? (digitBelow base) text
  some (← integer? (valueIn base ds), text)

def number? : List Char → Option (Document × List Char)
  | '0' :: 'x' :: text => radix? 16 text
  | '0' :: 'o' :: text => radix? 8 text
  | '0' :: 'b' :: text => radix? 2 text
  | '-' :: text => signedNumber? true text
  | '+' :: text => signedNumber? false text
  | text => signedNumber? false text

def fixedDigits? (count : Nat) (text : List Char) : Option (Nat × List Char) :=
  let ds := text.take count
  if ds.length = count ∧ ds.all Char.isDigit then some (Decimal.value ds, text.drop count) else none

def field? (low high : Nat) (text : List Char) : Option (Nat × List Char) := do
  let (n, text) ← fixedDigits? 2 text
  guard (low ≤ n ∧ n ≤ high)
  some (n, text)

def expect? (c : Char) : List Char → Option (List Char)
  | d :: text => if c = d then some text else none
  | [] => none

def daysIn (year month : Nat) : Nat :=
  if month = 2 then
    if year % 4 = 0 ∧ (year % 100 ≠ 0 ∨ year % 400 = 0) then 29 else 28
  else if month = 4 ∨ month = 6 ∨ month = 9 ∨ month = 11 then 30
  else 31

def padded (width n : Nat) : List Char :=
  let ds := Nat.toDigits 10 n
  List.replicate (width - ds.length) '0' ++ ds

def date? (text : List Char) : Option (List Char × List Char) := do
  let (year, text) ← fixedDigits? 4 text
  let (month, text) ← field? 1 12 (← expect? '-' text)
  let (day, text) ← field? 1 31 (← expect? '-' text)
  guard (day ≤ daysIn year month)
  some (padded 4 year ++ '-' :: padded 2 month ++ '-' :: padded 2 day, text)

def secondFraction? : List Char → Option (List Char × List Char)
  | '.' :: text =>
    let (ds, rest) := Decimal.splitDigits text
    if ds.isEmpty then none
    else
      let kept := ((ds.take 9).reverse.dropWhile (· == '0')).reverse
      some (if kept.isEmpty then [] else '.' :: kept, rest)
  | text => some ([], text)

def time? (text : List Char) : Option (List Char × List Char) := do
  let (hour, text) ← field? 0 23 text
  let (minute, text) ← field? 0 59 (← expect? ':' text)
  let (second, text) ← field? 0 60 (← expect? ':' text)
  let (fraction, text) ← secondFraction? text
  some (padded 2 hour ++ ':' :: padded 2 minute ++ ':' :: padded 2 second ++ fraction, text)

def offset? : List Char → Option (List Char × List Char)
  | 'Z' :: text | 'z' :: text => some (['Z'], text)
  | c :: text =>
    if c = '+' ∨ c = '-' then do
      let (hour, text) ← field? 0 23 text
      let (minute, text) ← field? 0 59 (← expect? ':' text)
      let sign := if hour = 0 ∧ minute = 0 then '+' else c
      some (sign :: padded 2 hour ++ ':' :: padded 2 minute, text)
    else some ([], c :: text)
  | [] => some ([], [])

def startsTime : List Char → Bool
  | a :: b :: ':' :: _ => a.isDigit && b.isDigit
  | _ => false

def startsDate : List Char → Bool
  | a :: b :: c :: d :: '-' :: _ => [a, b, c, d].all Char.isDigit
  | _ => false

def dateTime? (text : List Char) : Option (List Char × List Char) := do
  let (date, text) ← date? text
  match text with
  | c :: rest =>
    if (c = 'T' ∨ c = 't' ∨ c = ' ') ∧ startsTime rest then
      let (time, rest) ← time? rest
      let (offset, rest) ← offset? rest
      some (date ++ 'T' :: time ++ offset, rest)
    else some (date, text)
  | [] => some (date, [])

def dateTimeKey : String := "$__toml_private_datetime"

def moment (text : List Char) : Document := .object [(dateTimeKey, .string (String.ofList text))]

def numberOrMoment? (text : List Char) : Option (Document × List Char) :=
  if startsDate text then (dateTime? text).map fun (t, rest) => (moment t, rest)
  else if startsTime text then (time? text).map fun (t, rest) => (moment t, rest)
  else number? text

end Conform.Toml
