import Conform.Decimal.Shortest
/-!
How a finite float is written: the decisions of a format, and the layout that follows them.
-/

namespace Conform.Decimal

structure Style where
  tie : Tie
  /-- Whether a decimal whose leading digit stands for `10 ^ e` is written without an exponent. -/
  positional : Int → Bool
  pointZero : Bool

def zeros (n : Int) : List Char := List.replicate n.toNat '0'

def positionalText (style : Style) (digits : List Char) (e : Int) : List Char :=
  let point := e + 1
  if e < 0 then '0' :: '.' :: zeros (-e - 1) ++ digits
  else if digits.length ≤ point then
    digits ++ zeros (point - digits.length) ++ (if style.pointZero then ['.', '0'] else [])
  else digits.take point.toNat ++ '.' :: digits.drop point.toNat

def exponentText (digits : List Char) (e : Int) : List Char :=
  let sign := if e < 0 then '-' else '+'
  digits.take 1 ++ (if digits.length ≤ 1 then [] else '.' :: digits.drop 1)
    ++ 'e' :: sign :: Nat.toDigits 10 e.natAbs

def layout (style : Style) (d : GridPoint) : List Char :=
  let digits := Nat.toDigits 10 d.digits
  let e := d.exponent + digits.length - 1
  if style.positional e then positionalText style digits e else exponentText digits e

def isNegative (x : Float) : Bool := x.toBits >>> 63 == 1

def render (style : Style) (x : Float) : List Char :=
  let unsigned := layout style (shortest (Binary.ofFloat x) style.tie)
  if isNegative x then '-' :: unsigned else unsigned

end Conform.Decimal
