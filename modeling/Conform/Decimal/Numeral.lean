/-!
Numbers written in base ten: runs of digits and their value, signed integers in text, and the float
nearest to a decimal.
-/

namespace Conform.Decimal

def value (digits : List Char) : Nat := digits.foldl (fun n c => 10 * n + (c.toNat - 48)) 0

def splitDigits (text : List Char) : List Char × List Char :=
  (text.takeWhile Char.isDigit, text.dropWhile Char.isDigit)

def splitSign : List Char → Bool × List Char
  | '-' :: text => (true, text)
  | '+' :: text => (false, text)
  | text => (false, text)

def signed (negative : Bool) (n : Nat) : Int := if negative then -(n : Int) else n

def integer? (text : List Char) : Option Int :=
  let (negative, digits) := splitSign text
  if digits.isEmpty || !digits.all Char.isDigit then none else some (signed negative (value digits))

def int64? (n : Int) : Option Int64 :=
  if -9223372036854775808 ≤ n ∧ n ≤ 9223372036854775807 then some (Int64.ofInt n) else none

def infinity : Float := 1.0 / 0.0

def nan : Float := 0.0 / 0.0

/-- The float nearest to `mantissa * 10 ^ exponent`, ties to even. Decimals far outside the range of
floats are settled by their magnitude alone. -/
def nearestFloat (mantissa : Nat) (exponent : Int) : Float :=
  let magnitude : Int := (Nat.toDigits 10 mantissa).length + exponent
  if mantissa = 0 then 0.0
  else if magnitude > 400 then infinity
  else if magnitude < -400 then 0.0
  else Float.ofScientific mantissa (exponent < 0) exponent.natAbs

def signedFloat (negative : Bool) (x : Float) : Float := if negative then -x else x

structure Scientific where
  whole : List Char
  fraction : List Char
  exponent : Int

def Scientific.toFloat (d : Scientific) : Float :=
  nearestFloat (value (d.whole ++ d.fraction)) (d.exponent - d.fraction.length)

def splitFraction : List Char → List Char × List Char
  | '.' :: text => splitDigits text
  | text => ([], text)

def exponent? : List Char → Option Int
  | [] => some 0
  | c :: text => if c = 'e' ∨ c = 'E' then integer? text else none

def decimal? (text : List Char) : Option Scientific :=
  let (whole, afterWhole) := splitDigits text
  let (fraction, afterFraction) := splitFraction afterWhole
  if whole.isEmpty && fraction.isEmpty then none
  else (exponent? afterFraction).map fun e => ⟨whole, fraction, e⟩

def lowerCase (text : List Char) : String := String.ofList (text.map Char.toLower)

def float? (text : List Char) : Option Float :=
  let (negative, unsigned) := splitSign text
  let magnitude : Option Float :=
    match lowerCase unsigned with
    | "inf" | "infinity" => some infinity
    | "nan" => some nan
    | _ => (decimal? unsigned).map Scientific.toFloat
  magnitude.map (signedFloat negative)

end Conform.Decimal
