import Conform.Decimal.Significand
import Mathlib.Algebra.Group.Nat.Defs
import Mathlib.Tactic.Common

/-! What a word takes of the digits in front of it, and which decimals are still read as the float
nearest to them: those whose digits and power of ten are floats themselves, so that the one division
is all that is rounded. -/

namespace Conform.Decimal

variable {d : Scientific} {word : UInt64}

def continued (n : Nat) (digits : List Char) : Nat :=
  digits.foldl (fun n c => 10 * n + (c.toNat - 48)) n

lemma le_continued (n : Nat) (digits : List Char) : n ≤ continued n digits := by
  induction digits generalizing n with
  | nil => exact Nat.le_refl n
  | cons c digits ih =>
    have hstep : n ≤ 10 * n + (c.toNat - 48) := by omega
    exact Nat.le_trans hstep (ih _)

lemma continued_append (n : Nat) (digits more : List Char) :
    continued n (digits ++ more) = continued (continued n digits) more :=
  List.foldl_append

theorem extend_takes (word : UInt64) (digits : List Char) :
    ∃ taken, taken ++ (extend word digits).2 = digits ∧
      (extend word digits).1.toNat = continued word.toNat taken ∧
      ∀ c rest, (extend word digits).2 = c :: rest →
        UInt64.size ≤ continued word.toNat (taken ++ [c]) := by
  induction digits generalizing word with
  | nil => exact ⟨[], rfl, rfl, fun c rest h => by cases h⟩
  | cons c digits ih =>
    by_cases hfits : 10 * word.toNat + (c.toNat - 48) < UInt64.size
    · rw [extend, if_pos hfits]
      have hword := UInt64.toNat_ofNat_of_lt' hfits
      obtain ⟨taken, hall, hvalue, hfull⟩ := ih (UInt64.ofNat (10 * word.toNat + (c.toNat - 48)))
      rw [hword] at hvalue hfull
      exact ⟨c :: taken, congrArg (c :: ·) hall, hvalue, hfull⟩
    · rw [extend, if_neg hfits]
      refine ⟨[], rfl, rfl, ?_⟩
      rintro _ _ ⟨rfl, rfl⟩
      exact Nat.not_lt.mp hfits

lemma extend_of_lt {n : Nat} {digits : List Char} (hword : word.toNat = n)
    (h : continued n digits < UInt64.size) :
    (extend word digits).1.toNat = continued n digits ∧ (extend word digits).2 = [] := by
  subst hword
  obtain ⟨taken, hall, hvalue, hfull⟩ := extend_takes word digits
  cases hrest : (extend word digits).2 with
  | nil =>
    rw [hrest, List.append_nil] at hall
    rw [hvalue, hall]
    exact ⟨rfl, rfl⟩
  | cons c rest =>
    have hlong : continued word.toNat (taken ++ [c]) ≤ continued word.toNat digits := by
      rw [← hall, hrest, List.append_cons taken c rest, continued_append _ (taken ++ [c])]
      exact le_continued _ rest
    exact absurd (hfull c rest hrest) (Nat.not_le.mpr (Nat.lt_of_le_of_lt hlong h))

namespace Significand

lemma ofScientific_of_lt (h : value (d.whole ++ d.fraction) < UInt64.size) :
    (ofScientific d).word.toNat = value (d.whole ++ d.fraction) ∧
      (ofScientific d).exponent = d.exponent - d.fraction.length := by
  have hvalue : value (d.whole ++ d.fraction) = continued (value d.whole) d.fraction :=
    continued_append 0 d.whole d.fraction
  rw [hvalue] at h ⊢
  have hlt : continued 0 d.whole < UInt64.size := Nat.lt_of_le_of_lt (le_continued _ d.fraction) h
  obtain ⟨hwhole, hbeyond⟩ := extend_of_lt UInt64.toNat_zero hlt
  obtain ⟨hword, hdropped⟩ := extend_of_lt hwhole h
  refine ⟨hword, ?_⟩
  simp only [ofScientific, hbeyond, hdropped, List.length_nil]
  omega

lemma powerOfTen_eq : ∀ k : Fin Float.exactlyRepresentablePowersOfTen.size,
    powerOfTen k = Float.exactlyRepresentablePowersOfTen[k] := by
  decide +kernel

lemma zero_div_powerOfTen : ∀ k : Fin 23, (0 : UInt64).toFloat / powerOfTen k = 0.0 := by
  decide +kernel

lemma nearestFloat_of_short {m : Nat} {e : Int} (hm : m < 2 ^ 53) (hlow : -22 ≤ e) (hneg : e < 0) :
    nearestFloat m e = m.toUInt64.toFloat / powerOfTen e.natAbs := by
  have hplaces : e.natAbs < 23 := by omega
  by_cases hzero : m = 0
  · subst hzero
    exact (zero_div_powerOfTen ⟨e.natAbs, hplaces⟩).symm
  · have hlength : (Nat.toDigits 10 m).length ≤ 16 := by
      apply (Nat.length_toDigits_le_iff (by decide) (by decide)).mpr
      exact Nat.lt_trans hm (by decide)
    have hhigh : ¬ ((Nat.toDigits 10 m).length + e > 400) := by omega
    have hless : ¬ ((Nat.toDigits 10 m).length + e < -400) := by omega
    have hshort : m < 2 ^ 53 ∧ e.natAbs ≤ 22 := ⟨hm, by omega⟩
    simp only [nearestFloat, hzero, hhigh, hless, if_false, hneg, decide_true]
    rw [Float.ofScientific, dif_pos hshort, powerOfTen_eq ⟨e.natAbs, hplaces⟩]
    rfl

theorem toFloat?_of_short (hvalue : value (d.whole ++ d.fraction) < 2 ^ 53)
    (hlow : -22 ≤ d.exponent - d.fraction.length) (hneg : d.exponent - d.fraction.length < 0) :
    (ofScientific d).toFloat? = some d.toFloat := by
  have hfits : value (d.whole ++ d.fraction) < UInt64.size := Nat.lt_trans hvalue (by decide)
  obtain ⟨hword, hexponent⟩ := ofScientific_of_lt hfits
  have hwhole : (ofScientific d).word = (value (d.whole ++ d.fraction)).toUInt64 := by
    rw [← hword, Nat.toUInt64_eq, UInt64.ofNat_toNat]
  have hrounds : ((d.exponent - d.fraction.length).natAbs - 1) / 308 = 0 := by omega
  have hplaces : ((d.exponent - d.fraction.length).natAbs - 1) % 308 + 1
      = (d.exponent - d.fraction.length).natAbs := by omega
  rw [Scientific.toFloat, nearestFloat_of_short hvalue hlow hneg, toFloat?, hwhole, hexponent,
    if_pos hneg, hrounds, hplaces, lower]

/-- With more digits the word itself is rounded as well. -/
example : (ofScientific ⟨"19".toList, "990000000000002".toList, 0⟩).toFloat? = some 19.99 := by
  decide +kernel

end Significand

end Conform.Decimal
