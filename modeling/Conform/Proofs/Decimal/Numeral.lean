import Conform.Decimal.Numeral
import Mathlib.Data.List.Induction
import Mathlib.Data.Nat.Digits.Defs
import Mathlib.Tactic.Common

/-! Integers in text: an optional sign and at least one digit, with zeros in front or not. A text is
read when it is of this form and not otherwise, and what is read is its value in base ten. -/

namespace Conform.Decimal

variable {text digits : List Char} {n : Int}

def magnitude (digits : List Char) : Nat :=
  Nat.ofDigits 10 (digits.map fun c => c.toNat - '0'.toNat).reverse

structure Digits (digits : List Char) : Prop where
  nonempty : digits ≠ []
  all : ∀ c ∈ digits, '0' ≤ c ∧ c ≤ '9'

inductive Spells : List Char → Int → Prop
  | unsigned {ds : List Char} : Digits ds → Spells ds (magnitude ds)
  | plus {ds : List Char} : Digits ds → Spells ('+' :: ds) (magnitude ds)
  | minus {ds : List Char} : Digits ds → Spells ('-' :: ds) (-(magnitude ds : Int))

lemma value_eq_magnitude (digits : List Char) : value digits = magnitude digits := by
  induction digits using List.reverseRecOn with
  | nil => rfl
  | append_singleton digits c ih =>
    have hlast : value (digits ++ [c]) = 10 * value digits + (c.toNat - '0'.toNat) := by
      simp [value, List.foldl_append]
    rw [hlast, ih]
    simp [magnitude, Nat.ofDigits_cons, Nat.add_comm]

lemma isDigit_iff {c : Char} : c.isDigit = true ↔ '0' ≤ c ∧ c ≤ '9' := by
  simp [Char.isDigit, Char.le_def]

lemma digits_iff : Digits digits ↔ ¬ (digits.isEmpty || !digits.all Char.isDigit) = true := by
  simp only [Bool.or_eq_true, Bool.not_eq_true', List.isEmpty_iff, not_or, Bool.not_eq_false,
    List.all_eq_true, isDigit_iff]
  exact ⟨fun h => ⟨h.nonempty, h.all⟩, fun h => ⟨h.1, h.2⟩⟩

lemma integer?_of_split {negative : Bool} (h : splitSign text = (negative, digits)) :
    integer? text = some n ↔ Digits digits ∧ signed negative (magnitude digits) = n := by
  rw [integer?, h, ← value_eq_magnitude]
  by_cases hdigits : Digits digits
  · simp only [if_neg (digits_iff.mp hdigits), Option.some.injEq, hdigits, true_and]
  · simp only [if_pos (not_not.mp (mt digits_iff.mpr hdigits)), reduceCtorEq, hdigits, false_and]

lemma Digits.head_ne (h : Digits digits) {c : Char} (hc : c = '-' ∨ c = '+') (ds : List Char) :
    digits ≠ c :: ds := by
  rintro rfl
  have hdigit : '0' ≤ c ∧ c ≤ '9' := h.all c List.mem_cons_self
  rcases hc with rfl | rfl <;> exact absurd hdigit (by decide)

lemma Digits.splitSign (h : Digits digits) : splitSign digits = (false, digits) :=
  splitSign.eq_3 digits (fun ds => h.head_ne (.inl rfl) ds) fun ds => h.head_ne (.inr rfl) ds

lemma splitSign_cases (text : List Char) :
    (∃ ds, text = '-' :: ds) ∨ (∃ ds, text = '+' :: ds) ∨ splitSign text = (false, text) := by
  rw [splitSign.eq_def]
  split
  · next ds => exact .inl ⟨ds, rfl⟩
  · next ds => exact .inr (.inl ⟨ds, rfl⟩)
  · exact .inr (.inr rfl)

lemma integer?_eq_some_iff : integer? text = some n ↔ Spells text n := by
  constructor
  · intro h
    rcases splitSign_cases text with ⟨ds, rfl⟩ | ⟨ds, rfl⟩ | hsplit
    · obtain ⟨hdigits, rfl⟩ := (integer?_of_split rfl).mp h
      exact .minus hdigits
    · obtain ⟨hdigits, rfl⟩ := (integer?_of_split rfl).mp h
      exact .plus hdigits
    · obtain ⟨hdigits, rfl⟩ := (integer?_of_split hsplit).mp h
      exact .unsigned hdigits
  · intro h
    cases h with
    | unsigned hdigits => exact (integer?_of_split hdigits.splitSign).mpr ⟨hdigits, rfl⟩
    | plus hdigits => exact (integer?_of_split rfl).mpr ⟨hdigits, rfl⟩
    | minus hdigits => exact (integer?_of_split rfl).mpr ⟨hdigits, rfl⟩

lemma Spells.unique {m : Int} (h : Spells text m) (h' : Spells text n) : m = n :=
  Option.some.inj ((integer?_eq_some_iff.mpr h).symm.trans (integer?_eq_some_iff.mpr h'))

lemma int64?_toInt (n : Int64) : int64? n.toInt = some n := by
  have hrange : -9223372036854775808 ≤ n.toInt ∧ n.toInt ≤ 9223372036854775807 :=
    ⟨n.le_toInt, Int.le_of_lt_add_one n.toInt_lt⟩
  rw [int64?, if_pos hrange, Int64.ofInt_toInt]

lemma int64?_eq_some_iff {m : Int64} : int64? n = some m ↔ m.toInt = n := by
  constructor
  · intro h
    by_cases hrange : -9223372036854775808 ≤ n ∧ n ≤ 9223372036854775807
    · rw [int64?, if_pos hrange] at h
      obtain rfl := Option.some.inj h
      exact Int64.toInt_ofInt_of_le hrange.1 (Int.lt_add_one_of_le hrange.2)
    · rw [int64?, if_neg hrange] at h
      cases h
  · rintro rfl
    exact int64?_toInt m

lemma exists_toInt_iff : (∃ m : Int64, m.toInt = n) ↔ -2 ^ 63 ≤ n ∧ n ≤ 2 ^ 63 - 1 := by
  constructor
  · rintro ⟨m, rfl⟩
    exact ⟨m.le_toInt, Int.le_sub_one_of_lt m.toInt_lt⟩
  · rintro ⟨hlow, hhigh⟩
    exact ⟨Int64.ofInt n, Int64.toInt_ofInt_of_le hlow (Int.lt_of_le_sub_one hhigh)⟩

section Written

variable {n : Nat}

lemma value_toDigits (n : Nat) : value (Nat.toDigits 10 n) = n := by
  have hfold : value (Nat.toDigits 10 n) = Nat.ofDigitChars 10 (Nat.toDigits 10 n) 0 :=
    Nat.ofDigitChars_eq_foldl.symm
  rw [hfold, Nat.ofDigitChars_ten_toDigits]

lemma isDigit_of_mem_toDigits {c : Char} (h : c ∈ Nat.toDigits 10 n) : c.isDigit = true :=
  Nat.isDigit_of_mem_toDigits (by decide) (by decide) h

def padded (zeros n : Nat) : List Char := List.replicate zeros '0' ++ Nat.toDigits 10 n

lemma digits_padded (zeros n : Nat) : Digits (padded zeros n) where
  nonempty := List.append_ne_nil_of_right_ne_nil _ Nat.toDigits_ne_nil
  all c hc := by
    rcases List.mem_append.mp hc with hzero | hdigit
    · obtain rfl := List.eq_of_mem_replicate hzero
      decide
    · exact isDigit_iff.mp (isDigit_of_mem_toDigits hdigit)

lemma magnitude_padded (zeros n : Nat) : magnitude (padded zeros n) = n := by
  have hzeros : (List.replicate zeros '0').foldl (fun n c => 10 * n + (c.toNat - 48)) 0 = 0 := by
    induction zeros with
    | zero => rfl
    | succ zeros ih => exact ih
  rw [← value_eq_magnitude, value, padded, List.foldl_append, hzeros]
  exact value_toDigits n

lemma spells_padded (zeros n : Nat) : Spells (padded zeros n) n ∧ Spells ('+' :: padded zeros n) n ∧
    Spells ('-' :: padded zeros n) (-(n : Int)) := by
  have hunsigned := Spells.unsigned (digits_padded zeros n)
  have hplus := Spells.plus (digits_padded zeros n)
  have hminus := Spells.minus (digits_padded zeros n)
  rw [magnitude_padded] at hunsigned hplus hminus
  exact ⟨hunsigned, hplus, hminus⟩

end Written

end Conform.Decimal
