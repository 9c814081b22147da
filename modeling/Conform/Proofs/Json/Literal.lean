import Conform.Json.Literal
import Conform.Json.Printer
import Conform.Proofs.Decimal.Numeral
import Mathlib.Data.List.Basic
import Mathlib.Tactic.Common

/-! What is written of a single text or number is read back. A text between quotes gives its
characters, whatever stands behind the closing quote. A number is read as far as it goes, so what
stands behind it may not go on with it; in printed documents that is a comma, a closing bracket or the
end of a line. -/

namespace Conform.Json

section Text

def letter (c : Char) : Letter :=
  if c.toNat < 32 ∧ c ∉ ['\x08', '\t', '\n', '\x0c', '\r'] then .unit c.toNat else .char c

lemma hexValue?_control : ∀ n < 32,
    hexValue? ['0', '0', Nat.digitChar (n / 16), Nat.digitChar (n % 16)] = some n := by decide

lemma letters?_unit (n : Nat) (hn : n < 32) (text : List Char) :
    letters? ('\\' :: 'u' :: '0' :: '0' :: Nat.digitChar (n / 16) :: Nat.digitChar (n % 16) :: text)
      = (letters? text).map fun (ls, rest) => (.unit n :: ls, rest) := by
  rw [letters?, hexValue?_control n hn]
  cases letters? text <;> rfl

lemma letters?_plain {c : Char} (hq : c ≠ '"') (hb : c ≠ '\\') (hc : 32 ≤ c.toNat)
    (text : List Char) :
    letters? (c :: text) = (letters? text).map fun (ls, rest) => (.char c :: ls, rest) := by
  rw [letters?.eq_def]
  split
  · contradiction
  · simp_all
  · simp_all
  · simp_all
  · next c' text' _ _ _ heq =>
    obtain ⟨rfl, rfl⟩ := List.cons.inj heq
    simp only [guard, hc, if_true]
    cases letters? text <;> rfl

lemma letters?_short {e c : Char} (h : escape? e = some c) (text : List Char) :
    letters? ('\\' :: e :: text) = (letters? text).map fun (ls, rest) => (.char c :: ls, rest) := by
  have hu : e ≠ 'u' := by
    rintro rfl
    cases h
  rw [letters?.eq_def]
  split
  · contradiction
  · simp_all
  · simp_all
  · next e' text' _ heq =>
    obtain ⟨rfl, rfl⟩ := List.cons.inj (List.cons.inj heq).2
    rw [h]
    cases letters? text <;> rfl
  · next hne heq =>
    obtain ⟨rfl, rfl⟩ := List.cons.inj heq
    exact (hne e text rfl rfl).elim

lemma letters?_escaped (c : Char) (text : List Char) :
    letters? (escaped c ++ text) = (letters? text).map fun (ls, rest) => (letter c :: ls, rest) := by
  unfold escaped
  split
  · exact letters?_short (e := '"') (c := '"') rfl text
  · exact letters?_short (e := '\\') (c := '\\') rfl text
  · exact letters?_short (e := 'b') (c := '\x08') rfl text
  · exact letters?_short (e := 't') (c := '\t') rfl text
  · exact letters?_short (e := 'n') (c := '\n') rfl text
  · exact letters?_short (e := 'f') (c := '\x0c') rfl text
  · exact letters?_short (e := 'r') (c := '\r') rfl text
  · next hq hb h8 h9 h10 h12 h13 =>
    by_cases hc : c.toNat < 32
    · have hlong : c ∉ ['\x08', '\t', '\n', '\x0c', '\r'] := by
        simpa using ⟨h8, h9, h10, h12, h13⟩
      have hletter : letter c = .unit c.toNat := if_pos ⟨hc, hlong⟩
      rw [if_pos hc, hletter]
      exact letters?_unit c.toNat hc text
    · have hletter : letter c = .char c := by simp [letter, hc]
      rw [if_neg hc, hletter]
      exact letters?_plain hq hb (Nat.not_lt.mp hc) text

lemma letters?_quoted (cs rest : List Char) :
    letters? (cs.flatMap escaped ++ '"' :: rest) = some (cs.map letter, rest) := by
  induction cs with
  | nil => rfl
  | cons c cs ih =>
    rw [List.flatMap_cons, List.append_assoc, letters?_escaped, ih]
    rfl

lemma text?_unit {n : Nat} (hn : n < 0xD800) (ls : List Letter) :
    text? (.unit n :: ls) = (text? ls).map (Char.ofNat n :: ·) := by
  have hhigh : ¬ (0xD800 ≤ n ∧ n < 0xDC00) := by omega
  have hlow : ¬ (0xDC00 ≤ n ∧ n < 0xE000) := by omega
  have hnone : ¬ (0xD800 ≤ n ∧ n < 0xE000) := by omega
  cases ls with
  | nil => simp only [text?, hnone, if_false]
  | cons l ls => cases l <;> simp only [text?, hhigh, hlow, hnone, if_false]

lemma text?_letter (c : Char) (ls : List Letter) :
    text? (letter c :: ls) = (text? ls).map (c :: ·) := by
  by_cases hc : c.toNat < 32 ∧ c ∉ ['\x08', '\t', '\n', '\x0c', '\r']
  · rw [letter, if_pos hc, text?_unit (by omega), Char.ofNat_toNat]
  · rw [letter, if_neg hc, text?]

lemma text?_map_letter (cs : List Char) : text? (cs.map letter) = some cs := by
  induction cs with
  | nil => rfl
  | cons c cs ih =>
    rw [List.map_cons, text?_letter, ih]
    rfl

lemma string?_map_letter (s : String) : string? (s.toList.map letter) = some s := by
  rw [string?, text?_map_letter, Option.map_some, String.ofList_toList]

end Text

section Number

def Delimited (rest : List Char) : Prop :=
  ∀ c ∈ rest.head?, isBlank c = true ∨ c = ',' ∨ c = ']' ∨ c = '\x7d'

lemma delimited_nil : Delimited [] := nofun

lemma delimited_cons {c : Char} (h : isBlank c = true ∨ c = ',' ∨ c = ']' ∨ c = '\x7d')
    (rest : List Char) : Delimited (c :: rest) := by
  intro c' hc
  obtain rfl : c = c' := by simpa using hc
  exact h

variable {rest : List Char}

lemma Delimited.head {c : Char} (h : Delimited (c :: rest)) :
    c.isDigit = false ∧ c ∉ ['-', '+', '.', 'e', 'E'] := by
  have hc := h c rfl
  simp only [isBlank, Bool.or_eq_true, beq_iff_eq, or_assoc] at hc
  rcases hc with rfl | rfl | rfl | rfl | rfl | rfl | rfl <;> decide

lemma Delimited.head_ne (h : Delimited rest) {c : Char} (hc : c ∈ ['-', '+', '.', 'e', 'E'])
    (text : List Char) : rest ≠ c :: text := by
  rintro rfl
  exact h.head.2 hc

lemma Delimited.splitDigits (h : Delimited rest) : Decimal.splitDigits rest = ([], rest) := by
  cases rest with
  | nil => rfl
  | cons c rest => simp [Decimal.splitDigits, h.head.1]

lemma splitDigits_append (h : Delimited rest) (text : List Char) :
    Decimal.splitDigits (text ++ rest)
      = ((Decimal.splitDigits text).1, (Decimal.splitDigits text).2 ++ rest) := by
  induction text with
  | nil => exact h.splitDigits
  | cons c text ih =>
    simp only [Decimal.splitDigits, Prod.mk.injEq] at ih
    by_cases hc : c.isDigit = true <;> simp [Decimal.splitDigits, hc, ih]

lemma splitSign_append (h : Delimited rest) (text : List Char) :
    Decimal.splitSign (text ++ rest)
      = ((Decimal.splitSign text).1, (Decimal.splitSign text).2 ++ rest) := by
  cases text with
  | nil =>
    rw [List.nil_append, Decimal.splitSign.eq_def]
    split
    · exact absurd rfl (h.head_ne (by decide) _)
    · exact absurd rfl (h.head_ne (by decide) _)
    · rfl
  | cons c text =>
    rw [List.cons_append, Decimal.splitSign.eq_def, Decimal.splitSign.eq_def]
    split <;> simp_all

lemma whole?_append (h : Delimited rest) (text : List Char) :
    whole? (text ++ rest) = (whole? text).map fun (digits, left) => (digits, left ++ rest) := by
  rw [whole?, whole?, splitDigits_append h]
  obtain ⟨digits, left⟩ := Decimal.splitDigits text
  split
  · simp_all
  · simp_all
  · next digits' left' hnil hzero heq =>
    obtain ⟨rfl, rfl⟩ := Prod.mk.inj heq
    split <;> simp_all

lemma fraction?_append (h : Delimited rest) (text : List Char) :
    fraction? (text ++ rest) = (fraction? text).map fun (digits, left) => (digits, left ++ rest) := by
  cases text with
  | nil =>
    rw [List.nil_append, fraction?.eq_def]
    split
    · exact absurd rfl (h.head_ne (by decide) _)
    · rfl
  | cons c text =>
    by_cases hc : c = '.'
    · subst hc
      simp only [List.cons_append, fraction?, splitDigits_append h]
      split <;> simp_all
    · rw [List.cons_append, fraction?.eq_def, fraction?.eq_def]
      split <;> simp_all

lemma exponent?_append (h : Delimited rest) (text : List Char) :
    exponent? (text ++ rest) = (exponent? text).map fun (e, left) => (e, left ++ rest) := by
  cases text with
  | nil =>
    cases rest with
    | nil => rfl
    | cons c rest =>
      have hc : ¬(c = 'e' ∨ c = 'E') := by
        have hnot := h.head.2
        simp_all
      simp [exponent?, hc]
  | cons c text =>
    by_cases hc : c = 'e' ∨ c = 'E'
    · simp only [List.cons_append, exponent?, hc, if_true, splitSign_append h, splitDigits_append h]
      split <;> simp_all
    · simp [exponent?, hc]

def splitMinus : List Char → Bool × List Char
  | '-' :: text => (true, text)
  | text => (false, text)

lemma splitMinus_append (h : Delimited rest) (text : List Char) :
    splitMinus (text ++ rest) = ((splitMinus text).1, (splitMinus text).2 ++ rest) := by
  cases text with
  | nil =>
    rw [List.nil_append, splitMinus.eq_def]
    split
    · exact absurd rfl (h.head_ne (by decide) _)
    · rfl
  | cons c text =>
    rw [List.cons_append, splitMinus.eq_def, splitMinus.eq_def]
    split <;> simp_all

lemma number?_eq_bind (text : List Char) :
    number? text = (whole? (splitMinus text).2).bind fun (whole, left) =>
      (fraction? left).bind fun (fraction, left) =>
        (exponent? left).bind fun (exponent, left) =>
          some (⟨(splitMinus text).1, whole, fraction, exponent⟩, left) := by
  unfold number?
  split
  next negative unsigned hsplit =>
    have hminus : splitMinus text = (negative, unsigned) := hsplit
    rw [hminus]
    rfl

lemma number?_append (h : Delimited rest) (text : List Char) :
    number? (text ++ rest) = (number? text).map fun (n, left) => (n, left ++ rest) := by
  rw [number?_eq_bind, number?_eq_bind, splitMinus_append h]
  simp only [whole?_append h]
  cases whole? (splitMinus text).2 with
  | none => rfl
  | some w =>
    simp only [Option.map_some, Option.bind_some, fraction?_append h]
    cases fraction? w.2 with
    | none => rfl
    | some f =>
      simp only [Option.map_some, Option.bind_some, exponent?_append h]
      cases exponent? f.2 <;> rfl

lemma head_of_number? {text left : List Char} {n : Numeral} (h : number? text = some (n, left)) :
    ∃ c tail, text = c :: tail ∧ (c = '-' ∨ c.isDigit = true) := by
  cases text with
  | nil => cases h
  | cons c tail =>
    refine ⟨c, tail, rfl, ?_⟩
    by_contra hc
    obtain ⟨hminus, hdigit⟩ := not_or.mp hc
    have hsplit : splitMinus (c :: tail) = (false, c :: tail) := by
      refine splitMinus.eq_2 _ fun text heq => hminus (List.cons.inj heq).1
    have hwhole : whole? (c :: tail) = none := by
      simp [whole?, Decimal.splitDigits, hdigit]
    rw [number?_eq_bind, hsplit, hwhole] at h
    cases h

lemma splitDigits_of_digits {digits : List Char} (hdigits : ∀ c ∈ digits, c.isDigit = true)
    (hrest : ∀ c ∈ rest.head?, c.isDigit = false) :
    Decimal.splitDigits (digits ++ rest) = (digits, rest) := by
  have htake : rest.takeWhile Char.isDigit = [] ∧ rest.dropWhile Char.isDigit = rest := by
    cases rest with
    | nil => exact ⟨rfl, rfl⟩
    | cons c rest =>
      have hc : c.isDigit = false := hrest c rfl
      simp [hc]
  rw [Decimal.splitDigits, List.takeWhile_append_of_pos hdigits, List.dropWhile_append_of_pos hdigits,
    htake.1, htake.2, List.append_nil]

lemma head_toDigits_ne_zero {n : Nat} (hn : 0 < n) : (Nat.toDigits 10 n).head? ≠ some '0' := by
  induction n using Nat.strongRecOn with
  | ind n ih =>
    by_cases hlt : n < 10
    · rw [Nat.toDigits_of_lt_base hlt]
      simp only [List.head?_cons, ne_eq, Option.some.injEq, Nat.digitChar_eq_zero]
      omega
    · have hne : Nat.toDigits 10 (n / 10) ≠ [] := Nat.toDigits_ne_nil
      rw [Nat.toDigits_of_base_le (by decide) (Nat.not_lt.mp hlt), List.head?_append_of_ne_nil _ hne]
      exact ih (n / 10) (by omega) (by omega)

structure Leading (digits : List Char) : Prop where
  all : ∀ c ∈ digits, c.isDigit = true
  nonempty : digits ≠ []
  zero : digits.head? = some '0' → digits = ['0']

lemma leading_toDigits (n : Nat) : Leading (Nat.toDigits 10 n) := by
  refine ⟨fun c hc => Decimal.isDigit_of_mem_toDigits hc, Nat.toDigits_ne_nil, fun hzero => ?_⟩
  by_cases hn : 0 < n
  · exact absurd hzero (head_toDigits_ne_zero hn)
  · obtain rfl : n = 0 := by omega
    rfl

lemma whole?_of_leading {digits : List Char} (h : Leading digits)
    (hrest : ∀ c ∈ rest.head?, c.isDigit = false) :
    whole? (digits ++ rest) = some (digits, rest) := by
  rw [whole?, splitDigits_of_digits h.all hrest]
  split
  · next heq => exact absurd (Prod.mk.inj heq).1 h.nonempty
  · next d ds left heq =>
    have hdigits := (Prod.mk.inj heq).1
    have hall := h.zero (by rw [hdigits]; rfl)
    rw [hdigits] at hall
    exact absurd (List.cons.inj hall).2 (List.cons_ne_nil d ds)
  · simp_all

def numeralOf (n : Int) : Numeral := ⟨decide (n < 0), Nat.toDigits 10 n.natAbs, [], none⟩

lemma number?_integerText (n : Int) : number? (integerText n) = some (numeralOf n, []) := by
  have hunsigned : splitMinus (integerText n) = (decide (n < 0), Nat.toDigits 10 n.natAbs) := by
    by_cases hn : n < 0
    · simp [integerText, hn, splitMinus]
    · rw [integerText, if_neg hn, decide_eq_false hn]
      refine splitMinus.eq_2 _ fun text heq => ?_
      have hdigit : Char.isDigit '-' = true := Decimal.isDigit_of_mem_toDigits (heq ▸ List.mem_cons_self)
      exact absurd hdigit (by decide)
  have hwhole : whole? (Nat.toDigits 10 n.natAbs) = some (Nat.toDigits 10 n.natAbs, []) := by
    have hnone : ∀ c ∈ ([] : List Char).head?, c.isDigit = false := nofun
    simpa using whole?_of_leading (leading_toDigits n.natAbs) hnone
  rw [number?_eq_bind, hunsigned, hwhole]
  rfl

lemma number?_numeralOf {n : Int} (hlow : -9223372036854775808 ≤ n)
    (hhigh : n < 18446744073709551616) : (numeralOf n).number? = some (.integer n) := by
  have hvalue : Decimal.signed (decide (n < 0)) (Decimal.value (Nat.toDigits 10 n.natAbs)) = n := by
    rw [Decimal.value_toDigits]
    by_cases hn : n < 0
    · rw [decide_eq_true hn, Decimal.signed, if_pos rfl]
      omega
    · rw [decide_eq_false hn, Decimal.signed, if_neg Bool.false_ne_true]
      omega
  have hzero : (decide (n < 0) && n == 0) = false := by
    by_cases hn : n = 0 <;> simp [hn]
  have hrange : decide (-9223372036854775808 ≤ n ∧ n < 18446744073709551616) = true :=
    decide_eq_true ⟨hlow, hhigh⟩
  simp only [Numeral.number?, numeralOf, hvalue, hzero, hrange]
  rfl

end Number

end Conform.Json
