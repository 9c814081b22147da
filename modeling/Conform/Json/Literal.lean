import Conform.Decimal.Significand
import Conform.Json.Grammar
import Conform.Document
/-!
The meaning of JSON literals, and the document that a text stands for.
-/

namespace Conform.Json

def text? : List Letter → Option (List Char)
  | [] => some []
  | .char c :: ls => (text? ls).map (c :: ·)
  | .unit h :: .unit l :: ls =>
    if 0xD800 ≤ h ∧ h < 0xDC00 then
      if 0xDC00 ≤ l ∧ l < 0xE000 then
        (text? ls).map (Char.ofNat (0x10000 + (h - 0xD800) * 0x400 + (l - 0xDC00)) :: ·)
      else none
    else if 0xDC00 ≤ h ∧ h < 0xE000 then none
    else (text? (.unit l :: ls)).map (Char.ofNat h :: ·)
  | .unit n :: ls =>
    if 0xD800 ≤ n ∧ n < 0xE000 then none else (text? ls).map (Char.ofNat n :: ·)

def string? (letters : List Letter) : Option String := (text? letters).map String.ofList

inductive Number where
  | integer (n : Int)
  | float (x : Float)

namespace Numeral

def toFloat? (n : Numeral) : Option Float :=
  let s := Decimal.Significand.ofScientific ⟨n.whole, n.fraction, n.exponent.getD 0⟩
  s.toFloat?.map (Decimal.signedFloat n.negative)

/-- A number without fraction and exponent is an integer where 64 bits hold it, with or without a
sign; minus zero and all others are floats. A float beyond the finite ones has no meaning. -/
def number? (n : Numeral) : Option Number :=
  let m := Decimal.signed n.negative (Decimal.value n.whole)
  if n.fraction.isEmpty && n.exponent.isNone && !(n.negative && m == 0)
      && decide (-9223372036854775808 ≤ m ∧ m < 18446744073709551616) then
    some (.integer m)
  else n.toFloat?.map .float

end Numeral

def Number.document : Number → Document
  | integer n => .integer n
  | float x => .float x

namespace Raw

mutual

def document (room : Nat) : Raw → Document
  | null => .null
  | boolean b => .boolean b
  | number n => (n.number?.map Number.document).getD .unreadable
  | string ls => ((string? ls).map Document.string).getD .unreadable
  | array items =>
    match room with
    | 0 => .unreadable
    | room + 1 => .array (documents room items)
  | object entries =>
    match room with
    | 0 => .unreadable
    | room + 1 => ((entriesOf room entries).map Document.object).getD .unreadable

def documents (room : Nat) : List Raw → List Document
  | [] => []
  | r :: rs => document room r :: documents room rs

def entriesOf (room : Nat) : List (List Letter × Raw) → Option (List (String × Document))
  | [] => some []
  | (name, r) :: es =>
    match string? name, entriesOf room es with
    | some key, some rest => some ((key, document room r) :: rest)
    | _, _ => none

end

end Raw

def depthLimit : Nat := 127

def document? (text : String) : Option Document := (parse? text).map (Raw.document depthLimit)

def format : Document.Format where
  isUnit
    | .null => true
    | _ => false
  allowsSurplus := false

end Conform.Json
