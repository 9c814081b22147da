import Conform.Decimal.Numeral
/-!
Decimals as a word of 64 bits and a power of ten. The word takes digits while it holds them; the
float is the word multiplied or divided by the power, rounded at each step, and need not be the one
nearest to the decimal.
-/

namespace Conform.Decimal

structure Significand where
  word : UInt64
  exponent : Int

def extend (word : UInt64) : List Char → UInt64 × List Char
  | [] => (word, [])
  | c :: digits =>
    let n := 10 * word.toNat + (c.toNat - 48)
    if n < UInt64.size then extend (UInt64.ofNat n) digits else (word, c :: digits)

namespace Significand

def ofScientific (d : Scientific) : Significand :=
  let (whole, beyond) := extend 0 d.whole
  let (word, dropped) := extend whole d.fraction
  -- a whole digit beyond the word is still a place, one of the fraction is not
  ⟨word, d.exponent + beyond.length - (d.fraction.length - dropped.length : Nat)⟩

def powerOfTen (k : Nat) : Float := Float.ofScientific 1 false k

/-- Divides by `10 ^ 308`, the greatest power of ten among the floats, so many times. -/
def lower : Nat → Float → Float
  | 0, x => x
  | n + 1, x => if x == 0 then x else lower n (x / powerOfTen 308)

def toFloat? (s : Significand) : Option Float :=
  let x := s.word.toFloat
  let places := s.exponent.natAbs
  if s.exponent < 0 then
    some (lower ((places - 1) / 308) x / powerOfTen ((places - 1) % 308 + 1))
  else if places ≤ 308 then
    let scaled := x * powerOfTen places
    if scaled.isInf then none else some scaled
  else if x == 0 then some x
  else none

end Significand

end Conform.Decimal
