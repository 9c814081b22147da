import Conform.Value
/-!
Equality of values. Kinds never mix, so an integer differs from every float; floats compare as
numbers; arrays compare in order and maps without regard to order.
-/

namespace Conform.Value

mutual

def beq : Value → Value → Bool
  | null, null => true
  | boolean a, boolean b => a == b
  | integer m, integer n => m == n
  | float x, float y => x == y
  | string s, string t => s == t
  | array as, array bs => beqItems as bs
  | map es, map fs => es.length == fs.length && beqEntries es fs
  | _, _ => false

def beqItems : List Value → List Value → Bool
  | [], [] => true
  | a :: as, b :: bs => beq a b && beqItems as bs
  | _, _ => false

def beqEntries : List (String × Value) → List (String × Value) → Bool
  | [], _ => true
  | (key, a) :: es, fs =>
    (match Entries.get? fs key with
    | some b => beq a b
    | none => false) && beqEntries es fs

end

instance : BEq Value := ⟨beq⟩

end Conform.Value
