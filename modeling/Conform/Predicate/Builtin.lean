import Conform.Predicate
import Conform.Value.Equality
/-!
The built-in predicates. All of them are total: a value of the wrong kind, a missing value and a
missing argument are rejected.
-/

namespace Conform.Predicate

def isKind (kind : ValueKind) (subject : Option Value) (_ : List Value) : Bool :=
  subject.any fun v => v.kind == kind

def isNumber (subject : Option Value) (_ : List Value) : Bool := subject.any Value.isNumber

def filled (subject : Option Value) (_ : List Value) : Bool :=
  subject.any fun v => !v.isNull && !v.isEmpty

def empty (subject : Option Value) (_ : List Value) : Bool := subject.any Value.isEmpty

def compareFloats (x y : Float) : Option Ordering :=
  if x < y then some .lt
  else if x == y then some .eq
  else if x > y then some .gt
  else none

def compareIntegers (m n : Int64) : Ordering :=
  if m < n then .lt else if m = n then .eq else .gt

def compareValues : Value → Value → Option Ordering
  | .integer m, .integer n => some (compareIntegers m n)
  | v, bound => do compareFloats (← v.float?) (← bound.float?)

def order (subject : Option Value) (args : List Value) : Option Ordering := do
  compareValues (← subject) (← args.head?)

def lessThan (subject : Option Value) (args : List Value) : Bool := order subject args == some .lt

def atMost (subject : Option Value) (args : List Value) : Bool :=
  order subject args == some .lt || order subject args == some .eq

def greaterThan (subject : Option Value) (args : List Value) : Bool :=
  order subject args == some .gt

def atLeast (subject : Option Value) (args : List Value) : Bool :=
  order subject args == some .gt || order subject args == some .eq

def equal : Option Value → List Value → Bool
  | some v, w :: _ => v == w
  | _, _ => false

def notEqual : Option Value → List Value → Bool
  | some v, w :: _ => !(v == w)
  | _, _ => false

def sizes (subject : Option Value) (args : List Value) : Option (Int64 × Int64) := do
  let n ← (← subject).size
  let m ← (← args.head?).integer?
  some (Int64.ofNat n, m)

def hasSize (subject : Option Value) (args : List Value) : Bool :=
  (sizes subject args).any fun s => s.1 == s.2

def hasMinSize (subject : Option Value) (args : List Value) : Bool :=
  (sizes subject args).any fun s => s.2 ≤ s.1

def hasMaxSize (subject : Option Value) (args : List Value) : Bool :=
  (sizes subject args).any fun s => s.1 ≤ s.2

def includedIn : Option Value → List Value → Bool
  | some v, .array items :: _ => items.any fun item => item == v
  | _, _ => false

def excludedFrom : Option Value → List Value → Bool
  | some v, .array items :: _ => !items.any fun item => item == v
  | _, _ => false

def odd (subject : Option Value) (_ : List Value) : Bool :=
  (subject.bind Value.integer?).any fun n => n % 2 != 0

def even (subject : Option Value) (_ : List Value) : Bool :=
  (subject.bind Value.integer?).any fun n => n % 2 == 0

def isBoolean (b : Bool) (subject : Option Value) (_ : List Value) : Bool :=
  subject.bind Value.boolean? == some b

def sizeParameter : Parameter := ⟨"size", .nonNegativeInteger⟩

def countParameter : Parameter := ⟨"num", .nonNegativeInteger⟩

def boundParameter : Parameter := ⟨"num", .number⟩

def leftParameter : Parameter := ⟨"left", .any⟩

def listParameter : Parameter := ⟨"list", .list⟩

def typePredicates : List Predicate :=
  [⟨"int?", .type, [], "Value is an integer", isKind .integer⟩,
    ⟨"float?", .type, [], "Value is a float", isKind .float⟩,
    ⟨"decimal?", .type, [], "Value is a decimal (carried as a float)", isKind .float⟩,
    ⟨"number?", .type, [], "Value is an integer or a float", isNumber⟩,
    ⟨"str?", .type, [], "Value is a string", isKind .string⟩,
    ⟨"bool?", .type, [], "Value is a boolean", isKind .boolean⟩,
    ⟨"array?", .type, [], "Value is an array", isKind .array⟩,
    ⟨"hash?", .type, [], "Value is a mapping", isKind .map⟩,
    ⟨"nil?", .type, [], "Value is the null marker", isKind .null⟩]

def presencePredicates : List Predicate :=
  [⟨"filled?", .presence, [], "Value is present, not null and not empty", filled⟩,
    ⟨"empty?", .presence, [], "Value is an empty string or collection", empty⟩]

def comparisonPredicates : List Predicate :=
  [⟨"lt?", .comparison, [boundParameter], "Value is strictly less than num", lessThan⟩,
    ⟨"lteq?", .comparison, [boundParameter], "Value is less than or equal to num", atMost⟩,
    ⟨"gt?", .comparison, [boundParameter], "Value is strictly greater than num", greaterThan⟩,
    ⟨"gteq?", .comparison, [boundParameter], "Value is greater than or equal to num", atLeast⟩]

def equalityPredicates : List Predicate :=
  [⟨"eql?", .equality, [leftParameter], "Value equals the argument", equal⟩,
    ⟨"not_eql?", .equality, [leftParameter], "Value does not equal the argument", notEqual⟩]

def sizePredicates : List Predicate :=
  [⟨"size?", .size, [sizeParameter], "Size is exactly the argument", hasSize⟩,
    ⟨"min_size?", .size, [countParameter], "Size is at least the argument", hasMinSize⟩,
    ⟨"max_size?", .size, [countParameter], "Size is at most the argument", hasMaxSize⟩]

def inclusionPredicates : List Predicate :=
  [⟨"included_in?", .inclusion, [listParameter], "Value is one of the listed values", includedIn⟩,
    ⟨"excluded_from?", .inclusion, [listParameter], "Value is none of the listed values",
      excludedFrom⟩]

def logicPredicates : List Predicate :=
  [⟨"odd?", .logic, [], "Integer is odd", odd⟩, ⟨"even?", .logic, [], "Integer is even", even⟩,
    ⟨"true?", .logic, [], "Value is true", isBoolean true⟩,
    ⟨"false?", .logic, [], "Value is false", isBoolean false⟩]

def builtins : List Predicate :=
  typePredicates ++ presencePredicates ++ comparisonPredicates ++ equalityPredicates
    ++ sizePredicates ++ inclusionPredicates ++ logicPredicates

end Conform.Predicate
