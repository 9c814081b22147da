/-!
The fewest decimal digits that identify a float. A finite float stands for the interval of reals
that round to it; the decimals with the fewest digits in that interval are candidates, and of them
the nearest to the float is taken.
-/

namespace Conform.Decimal

structure Binary where
  mantissa : Nat
  exponent : Int
  /-- The gap to the float below is half the gap to the float above. -/
  narrowBelow : Bool

def Binary.ofFloat (x : Float) : Binary :=
  let bits := x.toBits
  let e := ((bits >>> 52) &&& 0x7FF).toNat
  let f := (bits &&& 0xFFFFFFFFFFFFF).toNat
  if e = 0 then ⟨f, -1074, false⟩ else ⟨Nat.pow 2 52 + f, (e : Int) - 1075, f == 0 && e > 1⟩

structure GridPoint where
  digits : Nat
  exponent : Int

inductive Tie where
  | even
  | up

/-- Compares `a * 10 ^ i` with `b * 2 ^ j`. -/
def compareScaled (a : Nat) (i : Int) (b : Nat) (j : Int) : Ordering :=
  compare (a * Nat.pow 10 i.toNat * Nat.pow 2 (-j).toNat)
    (b * Nat.pow 2 j.toNat * Nat.pow 10 (-i).toNat)

def Binary.readsBack (x : Binary) (d : GridPoint) : Bool :=
  let low := if x.narrowBelow then 4 * x.mantissa - 1 else 4 * x.mantissa - 2
  let high := 4 * x.mantissa + 2
  let closed := x.mantissa % 2 == 0
  let atLow := compareScaled d.digits d.exponent low (x.exponent - 2)
  let atHigh := compareScaled d.digits d.exponent high (x.exponent - 2)
  (atLow == .gt || closed && atLow == .eq) && (atHigh == .lt || closed && atHigh == .eq)

/-- The least `k` with the float below `10 ^ k`. The binary logarithm gives it up to a few steps. -/
def Binary.scale (x : Binary) : Int :=
  let start := Int.fdiv ((x.mantissa.log2 + x.exponent) * 30103) 100000 - 1
  let candidates := (List.range 5).map fun (i : Nat) => start + (i : Int)
  (candidates.find? fun k => compareScaled 1 k x.mantissa x.exponent == .gt).getD (start + 5)

def Binary.floorOn (x : Binary) (unit : Int) : Nat :=
  x.mantissa * Nat.pow 2 x.exponent.toNat * Nat.pow 10 (-unit).toNat
    / (Nat.pow 10 unit.toNat * Nat.pow 2 (-x.exponent).toNat)

def Binary.onGrid? (x : Binary) (tie : Tie) (unit : Int) : Option GridPoint :=
  let below : GridPoint := ⟨x.floorOn unit, unit⟩
  let above : GridPoint := ⟨below.digits + 1, unit⟩
  match x.readsBack below, x.readsBack above with
  | false, false => none
  | true, false => some below
  | false, true => some above
  | true, true =>
    match compareScaled (2 * below.digits + 1) unit (2 * x.mantissa) x.exponent, tie with
    | .gt, _ => some below
    | .lt, _ => some above
    | .eq, .up => some above
    | .eq, .even => some (if below.digits % 2 = 0 then below else above)

def Binary.exact (x : Binary) : GridPoint :=
  ⟨x.mantissa * Nat.pow 2 x.exponent.toNat * Nat.pow 5 (-x.exponent).toNat,
    -((-x.exponent).toNat : Int)⟩

def GridPoint.strip (d : GridPoint) : GridPoint :=
  let zeros := ((Nat.toDigits 10 d.digits).reverse.takeWhile (· == '0')).length
  ⟨d.digits / Nat.pow 10 zeros, d.exponent + zeros⟩

def shortest (x : Binary) (tie : Tie) : GridPoint :=
  if x.mantissa = 0 then ⟨0, 0⟩
  else
    let grids := (List.range 17).map fun n => x.scale - (n + 1 : Nat)
    ((grids.findSome? fun unit => x.onGrid? tie unit).getD x.exact).strip

end Conform.Decimal
