import Conform.Proofs.Predicate.Builtin
import Conform.Proofs.Value.Equality

/-! Predicates that come in opposite pairs. Of two opposites one holds wherever their question makes
sense, and neither where it does not; so the negative one is not the plain negation of the other. -/

namespace Conform

/-- Two predicates that say the opposite of each other, and the subjects and arguments on which one of
them has to hold. -/
structure Complement where
  left : String
  right : String
  Domain : Option Value → List Value → Prop

structure Opposed (p q : Option Value → List Value → Bool)
    (Domain : Option Value → List Value → Prop) : Prop where
  exclusive : ∀ subject args, ¬ (p subject args = true ∧ q subject args = true)
  exhaustive : ∀ subject args, Domain subject args → p subject args = true ∨ q subject args = true
  absent : ∀ args, p none args = false ∧ q none args = false

namespace Complement

def BothIntegers (subject : Option Value) (args : List Value) : Prop :=
  ∃ m n rest, subject = some (.integer m) ∧ args = .integer n :: rest

def BothThere (subject : Option Value) (args : List Value) : Prop :=
  ∃ v w rest, subject = some v ∧ args = w :: rest

def Listed (subject : Option Value) (args : List Value) : Prop :=
  ∃ v items rest, subject = some v ∧ args = .array items :: rest

def IsInteger (subject : Option Value) (_ : List Value) : Prop := ∃ n, subject = some (.integer n)

def IsBoolean (subject : Option Value) (_ : List Value) : Prop := ∃ b, subject = some (.boolean b)

def all : List Complement :=
  [⟨"lt?", "gteq?", BothIntegers⟩, ⟨"gt?", "lteq?", BothIntegers⟩, ⟨"eql?", "not_eql?", BothThere⟩,
    ⟨"included_in?", "excluded_from?", Listed⟩, ⟨"odd?", "even?", IsInteger⟩,
    ⟨"true?", "false?", IsBoolean⟩]

open Predicate

lemma opposed_of_order {p q : Option Value → List Value → Bool} (accepts : Ordering → Bool)
    (hp : ∀ subject args, p subject args = (order subject args).any accepts)
    (hq : ∀ subject args, q subject args = (order subject args).any fun o => !accepts o) :
    Opposed p q BothIntegers where
  exclusive subject args := by
    rw [hp, hq]
    cases order subject args with
    | none => simp
    | some o =>
      rw [Option.any_some, Option.any_some]
      cases accepts o <;> decide
  exhaustive := by
    rintro _ _ ⟨m, n, rest, rfl, rfl⟩
    rw [hp, hq, order_integers, Option.any_some, Option.any_some]
    cases accepts (compare m.toInt n.toInt) <;> decide
  absent args := by
    rw [hp, hq]
    exact ⟨rfl, rfl⟩

lemma opposed_lessThan : Opposed lessThan atLeast BothIntegers := by
  apply opposed_of_order (· == .lt)
  · intro subject args
    rw [lessThan]
    rcases order subject args with _ | _ | _ | _ <;> rfl
  · intro subject args
    rw [atLeast]
    rcases order subject args with _ | _ | _ | _ <;> rfl

lemma opposed_greaterThan : Opposed greaterThan atMost BothIntegers := by
  apply opposed_of_order (· == .gt)
  · intro subject args
    rw [greaterThan]
    rcases order subject args with _ | _ | _ | _ <;> rfl
  · intro subject args
    rw [atMost]
    rcases order subject args with _ | _ | _ | _ <;> rfl

lemma opposed_of_not {p q : Option Value → List Value → Bool}
    {Domain : Option Value → List Value → Prop}
    (hon : ∀ subject args, Domain subject args → q subject args = !p subject args)
    (hoff : ∀ subject args, ¬ Domain subject args → p subject args = false ∧ q subject args = false)
    (habsent : ∀ args, ¬ Domain none args) : Opposed p q Domain where
  exclusive subject args := by
    by_cases h : Domain subject args
    · rw [hon subject args h]
      cases p subject args <;> decide
    · obtain ⟨hp, _⟩ := hoff subject args h
      simp [hp]
  exhaustive subject args h := by
    rw [hon subject args h]
    cases p subject args <;> decide
  absent args := hoff none args (habsent args)

lemma opposed_equal : Opposed equal notEqual BothThere := by
  apply opposed_of_not
  · rintro _ _ ⟨v, w, rest, rfl, rfl⟩
    rfl
  · intro subject args h
    cases subject with
    | none => exact ⟨rfl, rfl⟩
    | some v =>
      cases args with
      | nil => exact ⟨rfl, rfl⟩
      | cons w rest => exact absurd ⟨v, w, rest, rfl, rfl⟩ h
  · rintro args ⟨v, w, rest, hv, _⟩
    cases hv

lemma opposed_includedIn : Opposed includedIn excludedFrom Listed := by
  apply opposed_of_not
  · rintro _ _ ⟨v, items, rest, rfl, rfl⟩
    rfl
  · intro subject args h
    cases subject with
    | none => exact ⟨rfl, rfl⟩
    | some v =>
      cases args with
      | nil => exact ⟨rfl, rfl⟩
      | cons w rest =>
        cases w with
        | array items => exact absurd ⟨v, items, rest, rfl, rfl⟩ h
        | _ => exact ⟨rfl, rfl⟩
  · rintro args ⟨v, items, rest, hv, _⟩
    cases hv

lemma opposed_odd : Opposed odd even IsInteger := by
  apply opposed_of_not
  · rintro _ args ⟨n, rfl⟩
    exact (Bool.not_not _).symm
  · intro subject args h
    cases subject with
    | none => exact ⟨rfl, rfl⟩
    | some v =>
      cases v with
      | integer n => exact absurd ⟨n, rfl⟩ h
      | _ => exact ⟨rfl, rfl⟩
  · rintro args ⟨n, hn⟩
    cases hn

lemma opposed_isBoolean : Opposed (isBoolean true) (isBoolean false) IsBoolean := by
  apply opposed_of_not
  · rintro _ args ⟨b, rfl⟩
    cases b <;> rfl
  · intro subject args h
    cases subject with
    | none => exact ⟨rfl, rfl⟩
    | some v =>
      cases v with
      | boolean b => exact absurd ⟨b, rfl⟩ h
      | _ => exact ⟨rfl, rfl⟩
  · rintro args ⟨b, hb⟩
    cases hb

lemma even_integer (n : Int64) (args : List Value) :
    even (some (.integer n)) args = decide (2 ∣ n.toInt) := by
  have heven : even (some (.integer n)) args = (n % 2 == 0) := rfl
  rw [heven, Bool.eq_iff_iff, beq_iff_eq, decide_eq_true_iff, ← Int64.toInt_inj, Int64.toInt_mod]
  exact Int.dvd_iff_tmod_eq_zero.symm

lemma includedIn_iff_equal {subject : Option Value} {items : List Value}
    (hv : ∀ v ∈ subject, v.NamesDistinct) (hitems : ∀ item ∈ items, item.NamesDistinct)
    (rest : List Value) :
    includedIn subject (.array items :: rest) = true ↔ ∃ item ∈ items, equal subject [item] = true := by
  cases subject with
  | none => simp [includedIn, equal]
  | some v =>
    have hincluded : includedIn (some v) (.array items :: rest) = items.any fun item => item == v := rfl
    rw [hincluded, List.any_eq_true]
    refine exists_congr fun item => and_congr_right fun hitem => ?_
    rw [Value.beq_comm (hitems item hitem) (hv v rfl)]
    rfl

lemma opposed_of_mem {c : Complement} (h : c ∈ all) :
    Opposed (PredicateRegistry.builtin.holds c.left) (PredicateRegistry.builtin.holds c.right)
      c.Domain := by
  have hall : ∀ c ∈ all, Opposed (PredicateRegistry.builtin.holds c.left)
      (PredicateRegistry.builtin.holds c.right) c.Domain := by
    simp only [all, List.forall_mem_cons]
    exact ⟨opposed_lessThan, opposed_greaterThan, opposed_equal, opposed_includedIn, opposed_odd,
      opposed_isBoolean, nofun⟩
  exact hall c h

end Complement

end Conform
