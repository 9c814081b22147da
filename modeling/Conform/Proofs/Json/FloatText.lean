import Conform.Proofs.Json.Literal

/-! The text of a float is a number that no integer is taken for: the digits in front of the point
start with a zero only where that is all there is, and a point or an exponent is always shown. -/

namespace Conform

namespace Decimal

variable {x : Binary} {d : GridPoint} {tie : Tie}

lemma pow_trailing_zeros_le {n : Nat} (hn : 0 < n) :
    10 ^ ((Nat.toDigits 10 n).reverse.takeWhile (· == '0')).length ≤ n := by
  induction n using Nat.strongRecOn with
  | ind n ih =>
    by_cases hlt : n < 10
    · have hne : (Nat.digitChar n == '0') = false := by
        rw [beq_eq_false_iff_ne, ne_eq, Nat.digitChar_eq_zero]
        omega
      rw [Nat.toDigits_of_lt_base hlt, List.reverse_singleton, List.takeWhile_cons, hne]
      exact hn
    · have hge : 10 ≤ n := Nat.not_lt.mp hlt
      rw [Nat.toDigits_of_base_le (by decide) hge, List.reverse_append, List.reverse_singleton,
        List.singleton_append, List.takeWhile_cons]
      split
      · have hrest := ih (n / 10) (by omega) (by omega)
        rw [List.length_cons, Nat.pow_succ]
        omega
      · exact hn

lemma GridPoint.strip_pos (h : 0 < d.digits) : 0 < d.strip.digits :=
  Nat.div_pos (pow_trailing_zeros_le h) (Nat.pow_pos (by decide))

lemma Binary.exact_pos (h : 0 < x.mantissa) : 0 < x.exact.digits :=
  Nat.mul_pos (Nat.mul_pos h (Nat.pow_pos (by decide))) (Nat.pow_pos (by decide))

lemma Binary.digits_pos_of_readsBack (hx : 0 < x.mantissa) (h : x.readsBack d = true) :
    0 < d.digits := by
  by_contra hd
  have hzero : d.digits = 0 := by omega
  have hlow : ∀ low, 0 < low → compareScaled d.digits d.exponent low (x.exponent - 2) = .lt := by
    intro low hlow
    rw [compareScaled, Nat.compare_eq_lt, hzero, Nat.zero_mul, Nat.zero_mul]
    exact Nat.mul_pos (Nat.mul_pos hlow (Nat.pow_pos (by decide))) (Nat.pow_pos (by decide))
  have hpos : 0 < if x.narrowBelow then 4 * x.mantissa - 1 else 4 * x.mantissa - 2 := by
    split <;> omega
  simp [Binary.readsBack, hlow _ hpos] at h

lemma Binary.readsBack_of_onGrid? {unit : Int} (h : x.onGrid? tie unit = some d) :
    x.readsBack d = true := by
  unfold Binary.onGrid? at h
  simp only at h
  split at h
  · cases h
  · next hbelow _ =>
    cases h
    exact hbelow
  · next _ habove =>
    cases h
    exact habove
  · next hbelow habove =>
    -- both read back, so whichever is nearer does
    split at h
    · cases h
      exact hbelow
    · cases h
      exact habove
    · cases h
      exact habove
    · split at h
      · cases h
        exact hbelow
      · cases h
        exact habove

lemma shortest_cases (x : Binary) (tie : Tie) :
    shortest x tie = ⟨0, 0⟩ ∨ 0 < (shortest x tie).digits := by
  unfold shortest
  split
  · exact .inl rfl
  · next hx =>
    refine .inr (GridPoint.strip_pos ?_)
    have hpos : 0 < x.mantissa := Nat.pos_of_ne_zero hx
    cases hfind : ((List.range 17).map fun n => x.scale - (n + 1 : Nat)).findSome?
        (fun unit => x.onGrid? tie unit) with
    | none => exact Binary.exact_pos hpos
    | some d =>
      obtain ⟨unit, _, hunit⟩ := List.exists_of_findSome?_eq_some hfind
      exact Binary.digits_pos_of_readsBack hpos (Binary.readsBack_of_onGrid? hunit)

end Decimal

namespace Json

variable {whole fraction tail : List Char} {d : Decimal.GridPoint}

def pointed : List Char → List Char
  | [] => []
  | digits => '.' :: digits

lemma pointed_of_ne_nil (h : fraction ≠ []) : pointed fraction = '.' :: fraction :=
  pointed.eq_2 _ h

def Trails (tail : List Char) : Prop :=
  ∃ exponent, exponent? tail = some (exponent, []) ∧ (tail = [] ∨ exponent ≠ none) ∧
    ∀ c ∈ tail.head?, c = 'e'

lemma trails_nil : Trails [] := ⟨none, rfl, .inl rfl, nofun⟩

lemma trails_exponent {sign : Char} (h : sign = '-' ∨ sign = '+') (n : Nat) :
    Trails ('e' :: sign :: Nat.toDigits 10 n) := by
  have hdigits : Decimal.splitDigits (Nat.toDigits 10 n) = (Nat.toDigits 10 n, []) := by
    have hnone : ∀ c ∈ ([] : List Char).head?, c.isDigit = false := nofun
    have hsplit := splitDigits_of_digits (fun c hc => Decimal.isDigit_of_mem_toDigits (n := n) hc) hnone
    rwa [List.append_nil] at hsplit
  have hempty : (Nat.toDigits 10 n).isEmpty = false := by
    simp [Nat.toDigits_ne_nil]
  refine ⟨some (Decimal.signed (sign == '-') (Decimal.value (Nat.toDigits 10 n))), ?_,
    .inr nofun, by simp⟩
  rcases h with rfl | rfl <;>
    simp [exponent?, Decimal.splitSign, hdigits, hempty]

lemma Trails.head_not_digit (h : Trails tail) : ∀ c ∈ tail.head?, c.isDigit = false := by
  obtain ⟨_, _, _, hhead⟩ := h
  intro c hc
  rw [hhead c hc]
  rfl

lemma fraction?_pointed (hfraction : ∀ c ∈ fraction, c.isDigit = true) (htail : Trails tail) :
    fraction? (pointed fraction ++ tail) = some (fraction, tail) := by
  cases fraction with
  | nil =>
    obtain ⟨_, _, _, hhead⟩ := htail
    cases tail with
    | nil => rfl
    | cons c tail =>
      obtain rfl := hhead c rfl
      rfl
  | cons c fraction =>
    rw [pointed, List.cons_append, fraction?, splitDigits_of_digits hfraction htail.head_not_digit]
    · rfl
    · exact List.cons_ne_nil _ _

lemma number?_of_parts (hwhole : Leading whole) (hfraction : ∀ c ∈ fraction, c.isDigit = true)
    (htail : Trails tail) (negative : Bool) :
    ∃ exponent, number? ((if negative then ['-'] else []) ++ (whole ++ (pointed fraction ++ tail)))
        = some (⟨negative, whole, fraction, exponent⟩, []) ∧ (tail = [] ∨ exponent ≠ none) := by
  obtain ⟨exponent, hexponent, hsome, _⟩ := id htail
  refine ⟨exponent, ?_, hsome⟩
  have hpoint : ∀ c ∈ (pointed fraction ++ tail).head?, c.isDigit = false := by
    cases fraction with
    | nil => exact htail.head_not_digit
    | cons c fraction =>
      intro c' hc
      obtain rfl : '.' = c' := by simpa [pointed] using hc
      rfl
  have hminus : splitMinus ((if negative then ['-'] else [])
      ++ (whole ++ (pointed fraction ++ tail))) = (negative, whole ++ (pointed fraction ++ tail)) := by
    cases negative with
    | true => rfl
    | false =>
      refine splitMinus.eq_2 _ fun text heq => ?_
      obtain ⟨c, digits, rfl⟩ := List.exists_cons_of_ne_nil hwhole.nonempty
      have hdigit : c.isDigit = true := hwhole.all c List.mem_cons_self
      rw [(List.cons.inj heq).1] at hdigit
      exact absurd hdigit (by decide)
  rw [number?_eq_bind, hminus]
  simp only [whole?_of_leading hwhole hpoint, fraction?_pointed hfraction htail, hexponent,
    Option.bind_some]

section Layout

def Parted (text : List Char) : Prop :=
  ∃ whole fraction tail, text = whole ++ (pointed fraction ++ tail) ∧ Leading whole ∧
    (∀ c ∈ fraction, c.isDigit = true) ∧ Trails tail ∧ (fraction ≠ [] ∨ tail ≠ [])

lemma isDigit_of_mem_zeros {n : Int} {c : Char} (h : c ∈ Decimal.zeros n) : c.isDigit = true := by
  rw [(List.mem_replicate.mp h).2]
  rfl

lemma zero_digits : ∀ c ∈ ['0'], c.isDigit = true := List.forall_mem_singleton.mpr rfl

lemma leading_zero : Leading ['0'] := ⟨zero_digits, List.cons_ne_nil _ _, fun _ => rfl⟩

lemma leading_of_head {digits more : List Char} (hdigits : ∀ c ∈ digits, c.isDigit = true)
    (hne : digits ≠ []) (hhead : digits.head? ≠ some '0') (hmore : ∀ c ∈ more, c.isDigit = true) :
    Leading (digits ++ more) := by
  refine ⟨?_, List.append_ne_nil_of_left_ne_nil hne more, fun hzero => ?_⟩
  · intro c hc
    exact (List.mem_append.mp hc).elim (hdigits c) (hmore c)
  · rw [List.head?_append_of_ne_nil _ hne] at hzero
    exact absurd hzero hhead

variable {digits : List Char}

lemma parted_behind_zero (hdigits : ∀ c ∈ digits, c.isDigit = true) (hne : digits ≠ []) :
    Parted ('0' :: '.' :: digits) := by
  refine ⟨['0'], digits, [], ?_, leading_zero, hdigits, trails_nil, .inl hne⟩
  rw [pointed_of_ne_nil hne, List.append_nil]
  rfl

lemma parted_between {k : Nat} (hdigits : ∀ c ∈ digits, c.isDigit = true)
    (hhead : digits.head? ≠ some '0') (hk : 0 < k) (hshort : k < digits.length) :
    Parted (digits.take k ++ '.' :: digits.drop k) := by
  have hdrop : digits.drop k ≠ [] := by
    rw [ne_eq, List.drop_eq_nil_iff]
    omega
  have htake : digits.take k ≠ [] := by
    apply List.ne_nil_of_length_pos
    rw [List.length_take]
    omega
  have hfirst : (digits.take k).head? ≠ some '0' := by
    rwa [List.head?_take, if_neg hk.ne']
  have hleading : Leading (digits.take k) := by
    refine ⟨fun c hc => hdigits c (List.mem_of_mem_take hc), htake, fun h => absurd h hfirst⟩
  refine ⟨digits.take k, digits.drop k, [], ?_, hleading, ?_, trails_nil, .inl hdrop⟩
  · rw [pointed_of_ne_nil hdrop, List.append_nil]
  · intro c hc
    exact hdigits c (List.mem_of_mem_drop hc)

lemma parted_positional (hdigits : ∀ c ∈ digits, c.isDigit = true) (hne : digits ≠ [])
    (hhead : digits.head? ≠ some '0') (e : Int) :
    Parted (Decimal.positionalText numberStyle digits e) := by
  rw [Decimal.positionalText]
  by_cases hneg : e < 0
  · rw [if_pos hneg]
    apply parted_behind_zero
    · intro c hc
      exact (List.mem_append.mp hc).elim isDigit_of_mem_zeros (hdigits c)
    · exact List.append_ne_nil_of_right_ne_nil _ hne
  · rw [if_neg hneg]
    by_cases hlong : (digits.length : Int) ≤ e + 1
    · rw [if_pos hlong]
      refine ⟨digits ++ Decimal.zeros (e + 1 - digits.length), ['0'], [], rfl, ?_, zero_digits,
        trails_nil, .inl (List.cons_ne_nil _ _)⟩
      exact leading_of_head hdigits hne hhead fun c hc => isDigit_of_mem_zeros hc
    · rw [if_neg hlong]
      apply parted_between hdigits hhead <;> omega

lemma parted_exponent (hdigits : ∀ c ∈ digits, c.isDigit = true) (hne : digits ≠ []) (e : Int) :
    Parted (Decimal.exponentText digits e) := by
  obtain ⟨c, more, rfl⟩ := List.exists_cons_of_ne_nil hne
  obtain ⟨hc, hmore⟩ := List.forall_mem_cons.mp hdigits
  have hsign : (if e < 0 then '-' else '+') = '-' ∨ (if e < 0 then '-' else '+') = '+' := by
    split
    · exact .inl rfl
    · exact .inr rfl
  refine ⟨[c], more, _, ?_, ⟨by simpa using hc, by simp, by simp⟩, hmore,
    trails_exponent hsign e.natAbs, .inr (by simp)⟩
  cases more <;> simp [Decimal.exponentText, pointed]

lemma parted_layout (h : d = ⟨0, 0⟩ ∨ 0 < d.digits) :
    Parted (Decimal.layout numberStyle d) := by
  rcases h with rfl | h
  · exact ⟨['0'], ['0'], [], rfl, leading_zero, zero_digits, trails_nil, .inl (List.cons_ne_nil _ _)⟩
  · have hdigits : ∀ c ∈ Nat.toDigits 10 d.digits, c.isDigit = true :=
      fun c hc => Decimal.isDigit_of_mem_toDigits hc
    unfold Decimal.layout
    simp only
    split
    · exact parted_positional hdigits Nat.toDigits_ne_nil (head_toDigits_ne_zero h) _
    · exact parted_exponent hdigits Nat.toDigits_ne_nil _

theorem number?_floatText {x : Float} (h : x.isFinite = true) :
    ∃ n, number? (floatText x) = some (n, []) ∧ (n.fraction ≠ [] ∨ n.exponent ≠ none) := by
  have hlayout := parted_layout (Decimal.shortest_cases (Decimal.Binary.ofFloat x) .even)
  obtain ⟨whole, fraction, tail, htext, hwhole, hfraction, htail, hshown⟩ := hlayout
  obtain ⟨exponent, hnumber, hexponent⟩ :=
    number?_of_parts hwhole hfraction htail (Decimal.isNegative x)
  have hrender : floatText x = (if Decimal.isNegative x then ['-'] else [])
      ++ (whole ++ (pointed fraction ++ tail)) := by
    rw [floatText, if_pos h, Decimal.render, ← htext]
    split <;> rfl
  refine ⟨_, hrender ▸ hnumber, ?_⟩
  rcases hshown with hshown | hshown
  · exact .inl hshown
  · exact .inr (hexponent.resolve_left hshown)

end Layout

end Json

end Conform
