import Conform.Proofs.Decimal.Numeral
import Conform.Proofs.DeclaredType.Builtin
import Conform.Value.Display

/-! Scalars that arrive as text, as the types for parameters read them: an integer from its numerals
in the range of 64 bits, a truth value from its words. The text that a value has in a message is one
of them. -/

namespace Conform

open Decimal

variable {text : String} {n : Int64} {m : Int}

namespace DeclaredType

def integerParameter : DeclaredType := scalar "integer" "int?" .null textInteger

def booleanParameter : DeclaredType := scalar "bool" "bool?" .null textBoolean

lemma integerOfText?_eq_some_iff : integerOfText? text = some n ↔ Spells text.toList n.toInt := by
  rw [integerOfText?, Option.bind_eq_some_iff]
  simp only [integer?_eq_some_iff, int64?_eq_some_iff, exists_eq_right']

lemma integerOfText?_eq_none_iff :
    integerOfText? text = none ↔ ∀ n : Int64, ¬ Spells text.toList n.toInt := by
  simp only [Option.eq_none_iff_forall_ne_some, ne_eq, integerOfText?_eq_some_iff]

lemma booleanOfText?_words :
    (∀ word ∈ trueWords, booleanOfText? word = some true) ∧
      ∀ word ∈ falseWords, booleanOfText? word = some false := by
  decide

lemma coerce_integerParameter_eq_coerced_iff :
    integerParameter.coerce (.present (.string text)) = .coerced (.integer n) "integer" ↔
      Spells text.toList n.toInt := by
  rw [← integerOfText?_eq_some_iff]
  cases h : integerOfText? text <;>
    simp [coerce, coerce.typed, integerParameter, scalar, textInteger, h]

lemma coerce_integerParameter_of_not_spells (h : ∀ n : Int64, ¬ Spells text.toList n.toInt) :
    integerParameter.coerce (.present (.string text)) = .failed (some (.string text)) := by
  simp [coerce, coerce.typed, integerParameter, scalar, textInteger,
    integerOfText?_eq_none_iff.mpr h]

end DeclaredType

lemma Presence.classify_text (h : text ≠ "") (e : EmptyText) :
    classify e (some (.string text)) = .present (.string text) := by
  simp [classify, h]

lemma Decimal.Spells.ne_empty (h : Spells text.toList m) : text ≠ "" := by
  rintro rfl
  cases h with
  | unsigned hdigits => exact hdigits.nonempty rfl

lemma Decimal.spells_display (n : Int64) : Spells (Value.integer n).display.toList n.toInt := by
  rw [Value.display, Int.toString_eq_repr, Int.repr_eq_if]
  by_cases hn : 0 ≤ n.toInt
  · obtain ⟨k, hk⟩ := Int.eq_ofNat_of_zero_le hn
    rw [if_pos hn, hk, Int.toNat_natCast, Nat.toList_repr]
    exact (spells_padded 0 k).1
  · obtain ⟨k, hk⟩ := Int.eq_ofNat_of_zero_le (by omega : 0 ≤ -n.toInt)
    have hneg : n.toInt = -(k : Int) := by omega
    rw [if_neg hn, hk, Int.toNat_natCast, hneg, String.toList_append, Nat.toList_repr]
    exact (spells_padded 0 k).2.2

end Conform
