import Conform.Predicate.Registry
import Mathlib.Algebra.Order.Ring.Int
import Mathlib.Order.Compare

/-! The predicates that come with the library, as a registry hands them out. None of them holds of a
key that is absent: absence is no value that could be compared, counted or be unlike another. -/

namespace Conform

lemma PredicateRegistry.mem_of_get?_ofList {name : String} {p : Predicate} {ps : List Predicate}
    (h : (ofList ps).get? name = some p) : p ∈ ps := by
  have hpredicates : (ofList ps).predicates
      = ps.foldl (fun m p => m.insert p.name p) OrderedMap.empty :=
    (List.foldl_hom PredicateRegistry.predicates fun _ _ => rfl).symm
  rw [get?, hpredicates] at h
  exact (OrderedMap.mem_of_get?_foldl_insert h).resolve_right nofun

def PredicateRegistry.holds (registry : PredicateRegistry) (name : String) (subject : Option Value)
    (args : List Value) : Bool :=
  (registry.get? name).any fun p => p.check subject args

namespace Predicate

def RejectsAbsent (p : Predicate) : Prop := ∀ args, p.check none args = false

lemma rejectsAbsent_builtins : ∀ p ∈ builtins, p.RejectsAbsent := by
  have htype : ∀ p ∈ typePredicates, p.RejectsAbsent := by
    simp [typePredicates, RejectsAbsent, isKind, isNumber]
  have hpresence : ∀ p ∈ presencePredicates, p.RejectsAbsent := by
    simp [presencePredicates, RejectsAbsent, filled, empty]
  have hcomparison : ∀ p ∈ comparisonPredicates, p.RejectsAbsent := by
    simp [comparisonPredicates, RejectsAbsent, lessThan, atMost, greaterThan, atLeast, order]
  have hequality : ∀ p ∈ equalityPredicates, p.RejectsAbsent := by
    simp [equalityPredicates, RejectsAbsent, equal, notEqual]
  have hsize : ∀ p ∈ sizePredicates, p.RejectsAbsent := by
    simp [sizePredicates, RejectsAbsent, hasSize, hasMinSize, hasMaxSize, sizes]
  have hinclusion : ∀ p ∈ inclusionPredicates, p.RejectsAbsent := by
    simp [inclusionPredicates, RejectsAbsent, includedIn, excludedFrom]
  have hlogic : ∀ p ∈ logicPredicates, p.RejectsAbsent := by
    simp [logicPredicates, RejectsAbsent, odd, even, isBoolean]
  simp only [builtins, List.forall_mem_append]
  exact ⟨⟨⟨⟨⟨⟨htype, hpresence⟩, hcomparison⟩, hequality⟩, hsize⟩, hinclusion⟩, hlogic⟩

section Integers

variable (m n : Int64) (rest : List Value)

lemma order_integers :
    order (some (.integer m)) (.integer n :: rest) = some (compare m.toInt n.toInt) := by
  have horder : order (some (.integer m)) (.integer n :: rest) = some (compareIntegers m n) := rfl
  rw [horder, compareIntegers]
  by_cases hlt : m < n
  · rw [if_pos hlt, compare_lt_iff_lt.mpr (Int64.lt_iff_toInt_lt.mp hlt)]
  · by_cases heq : m = n
    · rw [if_neg hlt, if_pos heq, heq, compare_eq_iff_eq.mpr rfl]
    · have hge : n.toInt ≤ m.toInt := not_lt.mp (mt Int64.lt_iff_toInt_lt.mpr hlt)
      have hgt : n.toInt < m.toInt := lt_of_le_of_ne hge fun h => heq (Int64.toInt_inj.mp h).symm
      rw [if_neg hlt, if_neg heq, compare_gt_iff_gt.mpr hgt]

lemma lessThan_integers :
    lessThan (some (.integer m)) (.integer n :: rest) = decide (m.toInt < n.toInt) := by
  rw [lessThan, order_integers, Bool.eq_iff_iff]
  simp [compare_lt_iff_lt]

lemma greaterThan_integers :
    greaterThan (some (.integer m)) (.integer n :: rest) = decide (n.toInt < m.toInt) := by
  rw [greaterThan, order_integers, Bool.eq_iff_iff]
  simp [compare_gt_iff_gt]

lemma atMost_integers :
    atMost (some (.integer m)) (.integer n :: rest) = decide (m.toInt ≤ n.toInt) := by
  rw [atMost, order_integers, Bool.eq_iff_iff]
  simp only [Bool.or_eq_true, beq_iff_eq, Option.some.injEq, compare_lt_iff_lt, compare_eq_iff_eq,
    decide_eq_true_iff]
  omega

lemma atLeast_integers :
    atLeast (some (.integer m)) (.integer n :: rest) = decide (n.toInt ≤ m.toInt) := by
  rw [atLeast, order_integers, Bool.eq_iff_iff]
  simp only [Bool.or_eq_true, beq_iff_eq, Option.some.injEq, compare_gt_iff_gt, compare_eq_iff_eq,
    decide_eq_true_iff]
  omega

end Integers

end Predicate

lemma PredicateRegistry.rejectsAbsent_of_get? {name : String} {p : Predicate}
    (h : builtin.get? name = some p) : p.RejectsAbsent :=
  Predicate.rejectsAbsent_builtins p (mem_of_get?_ofList h)

end Conform
