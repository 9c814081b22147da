import Conform.Proofs.Evaluation.Standard
import Conform.Proofs.Predicate.Builtin
import Conform.Proofs.Validation.Independence

/-! Being empty. Classification, the predicates on presence and the predicates on size each decide it
for themselves, and decide it alike; an empty string that stands for null is the one exception. -/

namespace Conform

namespace Value

/-- A signed word of 64 bits holds the size, as it does of whatever fits into memory. -/
def SizeFits (v : Value) : Prop := ∀ n, v.size = some n → n < 2 ^ 63

variable {v : Value}

lemma isEmpty_iff_size : v.isEmpty = true ↔ v.size = some 0 := by
  cases v with
  | string s =>
    rw [isEmpty, size, Option.some_inj, String.isEmpty_iff, String.length_eq_zero_iff]
  | array items => rw [isEmpty, size, Option.some_inj, List.isEmpty_iff_length_eq_zero]
  | map entries => rw [isEmpty, size, Option.some_inj, List.isEmpty_iff_length_eq_zero]
  | _ => simp [isEmpty, size]

lemma isNull_of_size {n : Nat} (h : v.size = some n) : v.isNull = false := by
  cases v with
  | null => cases h
  | _ => rfl

end Value

namespace Predicate

variable {v : Value} {n : Nat} {m : Int64} {args rest : List Value}

lemma filled_iff : filled (some v) args = true ↔ v.isNull = false ∧ v.isEmpty = false := by
  simp [filled]

lemma empty_iff : empty (some v) args = true ↔ v.isEmpty = true := by
  simp [empty]

lemma sizes_of_size (h : v.size = some n) :
    sizes (some v) (.integer m :: rest) = some (Int64.ofNat n, m) := by
  simp [sizes, h, Value.integer?]

lemma sizes_of_no_size (h : v.size = none) (args : List Value) : sizes (some v) args = none := by
  simp [sizes, h]

lemma hasSize_eq_and (subject : Option Value) (args : List Value) :
    hasSize subject args = (hasMinSize subject args && hasMaxSize subject args) := by
  rw [hasSize, hasMinSize, hasMaxSize]
  cases sizes subject args with
  | none => rfl
  | some s =>
    rw [Option.any_some, Option.any_some, Option.any_some, Bool.eq_iff_iff, Bool.and_eq_true,
      beq_iff_eq, decide_eq_true_iff, decide_eq_true_iff, Int64.le_antisymm_iff]
    exact and_comm

section Fits

variable (hfits : v.SizeFits)

include hfits

lemma toInt_size (h : v.size = some n) : (Int64.ofNat n).toInt = n :=
  Int64.toInt_ofNat_of_lt (hfits n h)

lemma hasMaxSize_zero_iff : hasMaxSize (some v) (.integer 0 :: rest) = true ↔ v.isEmpty = true := by
  rw [Value.isEmpty_iff_size, hasMaxSize]
  cases h : v.size with
  | none => simp [sizes_of_no_size h]
  | some n =>
    have hn := toInt_size hfits h
    have hzero : (0 : Int64).toInt = 0 := rfl
    rw [sizes_of_size h, Option.any_some, decide_eq_true_iff, Int64.le_iff_toInt_le, hn, hzero,
      Option.some_inj]
    omega

lemma hasSize_zero_iff : hasSize (some v) (.integer 0 :: rest) = true ↔ v.isEmpty = true := by
  rw [Value.isEmpty_iff_size, hasSize]
  cases h : v.size with
  | none => simp [sizes_of_no_size h]
  | some n =>
    have hn := toInt_size hfits h
    have hzero : (0 : Int64).toInt = 0 := rfl
    rw [sizes_of_size h, Option.any_some, beq_iff_eq, ← Int64.toInt_inj, hn, hzero, Option.some_inj]
    omega

lemma hasMinSize_one_iff (hsize : v.size.isSome = true) :
    hasMinSize (some v) (.integer 1 :: rest) = true ↔ filled (some v) args = true := by
  obtain ⟨n, h⟩ := Option.isSome_iff_exists.mp hsize
  have hn := toInt_size hfits h
  have hone : (1 : Int64).toInt = 1 := rfl
  have hempty : v.isEmpty = false ↔ ¬ n = 0 := by
    rw [Bool.eq_false_iff, Ne, Value.isEmpty_iff_size, h, Option.some_inj]
  rw [filled_iff, and_iff_right (Value.isNull_of_size h), hempty, hasMinSize, sizes_of_size h,
    Option.any_some, decide_eq_true_iff, Int64.le_iff_toInt_le, hn, hone]
  omega

end Fits

end Predicate

section Presence

variable {input : Input} {key : String} {emptyText : EmptyText} {v : Value}

lemma Input.classify_of_get? (h : input.get? key = some v) :
    input.classify key emptyText = Presence.classify emptyText (some v) := by
  rw [classify, h]

lemma Presence.unfilled_iff {raw : Option Value} (args : List Value) :
    ((classify emptyText raw).kind = .null ∨ (classify emptyText raw).kind = .blank) ↔
      ∃ v, raw = some v ∧ Predicate.filled (some v) args = false := by
  cases raw with
  | none => simp [classify, kind]
  | some v =>
    have hthere : (classify emptyText (some v)).kind ≠ .absent :=
      mt kind_classify_absent_iff.mp (Option.some_ne_none v)
    have hpresent : (classify emptyText (some v)).kind = .present ↔
        Predicate.filled (some v) args = true :=
      kind_classify_present_iff.trans Predicate.filled_iff.symm
    have hrejected : (∃ w, some v = some w ∧ Predicate.filled (some w) args = false) ↔
        (classify emptyText (some v)).kind ≠ .present := by
      rw [Ne, hpresent, Bool.not_eq_true]
      constructor
      · rintro ⟨w, hw, h⟩
        rwa [Option.some_inj.mp hw]
      · intro h
        exact ⟨v, rfl, h⟩
    rw [hrejected]
    cases hk : (classify emptyText (some v)).kind with
    | absent => exact absurd hk hthere
    | null | blank | present => simp

end Presence

namespace Pipeline

variable {rule : Rule} {input : Input}

lemma quantifier_mem_checks_iff :
    .quantifier ∈ (standard.evaluate rule input).map FailedCheck.check ↔
      rule.Unfilled (input.classify rule.key rule.emptyText) := by
  rw [List.mem_map]
  constructor
  · rintro ⟨c, hc, hcheck⟩
    rw [evaluate_standard] at hc
    split at hc
    · cases hc
    · simp only [List.mem_append] at hc
      rcases hc with ((hp | hq) | ht) | hr
      · obtain ⟨rfl, -⟩ := Rule.mem_presenceFailures.mp hp
        cases hcheck
      · exact (Rule.mem_quantifierFailures.mp hq).2
      · obtain ⟨t, -, -, -, rfl⟩ := Rule.mem_typeFailures.mp ht
        cases hcheck
      · obtain ⟨q, -, -, rfl⟩ := Rule.mem_predicateFailures.mp hr
        cases hcheck
  · intro h
    -- a key that is there and not of `maybe` goes through every stage
    have hexcused : ¬ rule.Excused (input.classify rule.key rule.emptyText) := by
      obtain ⟨hq, hk⟩ := h
      rintro (⟨ha, -⟩ | ⟨-, hm⟩)
      · rcases hk with hk | hk
        · cases ha.symm.trans hk
        · cases ha.symm.trans hk
      · cases hq.symm.trans hm
    refine ⟨.bare .quantifier, ?_, rfl⟩
    rw [evaluate_standard, if_neg hexcused]
    apply List.mem_append_left
    apply List.mem_append_left
    apply List.mem_append_right
    exact Rule.mem_quantifierFailures.mpr ⟨rfl, h⟩

end Pipeline

lemma Schema.quantifier_mem_failuresFor_iff {declaration : SchemaDeclaration} {config : Config}
    {schema : Schema} {d : KeyDeclaration} (h : Schema.compile declaration config = .ok schema)
    (hd : d ∈ declaration.keys) (hq : d.quantifier = .filled) (input : Input) (args : List Value) :
    .quantifier ∈ ((schema.validate input).failuresFor d.key).map Failure.check ↔
      ∃ v, input.get? d.key = some v ∧ Predicate.filled (some v) args = false := by
  have hchecks : (keyFailures config input d).map Failure.check
      = (Pipeline.standard.evaluate (Compile.ruleOf config d) input).map FailedCheck.check := by
    rw [keyFailures, List.map_map]
    rfl
  rw [Schema.failuresFor_of_mem h input hd, hchecks, Pipeline.quantifier_mem_checks_iff,
    ← Presence.unfilled_iff args]
  exact and_iff_right hq

theorem emptiness_agrees :
    let holds := PredicateRegistry.builtin.holds
    (∀ (input : Input) (key : String) (emptyText : EmptyText) (v : Value) (args : List Value),
      input.get? key = some v →
        let p := input.classify key emptyText
        let standsForNull := v = .string "" ∧ emptyText = .null
        (p.kind = .present ↔ holds "filled?" (some v) args = true) ∧
        (p.kind = .blank ↔ holds "empty?" (some v) args = true ∧ ¬ standsForNull) ∧
        (p.kind = .null ↔ v = .null ∨ standsForNull) ∧
        (standsForNull → p.value = some .null) ∧
        (¬ standsForNull → p.value = some v)) ∧
    (∀ (v : Value) (args rest : List Value), v.SizeFits →
      (holds "empty?" (some v) args = true ↔ holds "size?" (some v) (.integer 0 :: rest) = true) ∧
      (holds "size?" (some v) (.integer 0 :: rest) = true ↔
        holds "max_size?" (some v) (.integer 0 :: rest) = true) ∧
      (v.size.isSome = true → (holds "filled?" (some v) args = true ↔
        holds "min_size?" (some v) (.integer 1 :: rest) = true))) ∧
    (∀ (subject : Option Value) (args : List Value), holds "size?" subject args
      = (holds "min_size?" subject args && holds "max_size?" subject args)) ∧
    ∀ (declaration : SchemaDeclaration) (config : Config) (schema : Schema),
      Schema.compile declaration config = .ok schema →
      ∀ d ∈ declaration.keys, d.quantifier = .filled → ∀ input : Input,
        (.quantifier ∈ ((schema.validate input).failuresFor d.key).map Failure.check ↔
          ∃ v, input.get? d.key = some v ∧ holds "filled?" (some v) [] = false) := by
  intro holds
  have hfilled : holds "filled?" = Predicate.filled := rfl
  have hempty : holds "empty?" = Predicate.empty := rfl
  have hsize : holds "size?" = Predicate.hasSize := rfl
  have hmin : holds "min_size?" = Predicate.hasMinSize := rfl
  have hmax : holds "max_size?" = Predicate.hasMaxSize := rfl
  rw [hfilled, hempty, hsize, hmin, hmax]
  refine ⟨fun input key emptyText v args hv => ?_, fun v args rest hfits => ⟨?_, ?_, ?_⟩,
    Predicate.hasSize_eq_and, fun declaration config schema h d hd hq input => ?_⟩
  · intro p standsForNull
    have hp : p = Presence.classify emptyText (some v) := Input.classify_of_get? hv
    have hnull : p.kind = .null ↔ v = .null ∨ standsForNull := by
      rw [hp, Presence.kind_classify_null_iff, Option.some_inj, Option.some_inj]
    refine ⟨?_, ?_, hnull, fun h => Presence.value_of_kind_null (hnull.mpr (.inr h)), fun h => ?_⟩
    · rw [hp, Predicate.filled_iff, Presence.kind_classify_present_iff]
    · rw [hp, Predicate.empty_iff, Presence.kind_classify_blank_iff]
    · by_cases hv : v = .null
      · rw [hv, Presence.value_of_kind_null (hnull.mpr (.inl hv))]
      · have hkind : p.kind ≠ .null := mt hnull.mp (not_or.mpr ⟨hv, h⟩)
        rw [hp] at hkind ⊢
        exact Presence.value_classify hkind
  · rw [Predicate.empty_iff, Predicate.hasSize_zero_iff hfits]
  · rw [Predicate.hasSize_zero_iff hfits, Predicate.hasMaxSize_zero_iff hfits]
  · exact fun h => (Predicate.hasMinSize_one_iff hfits h).symm
  · exact Schema.quantifier_mem_failuresFor_iff h hd hq input []

theorem emptiness_agrees_tags :
    let d := (KeyDeclaration.required "tags").withQuantifier .filled
    let input := Input.ofEntries [("tags", .array []), ("note", .string "")]
    ∃ schema, Schema.compile ⟨[d]⟩ Config.json = .ok schema ∧
      (input.classify "note" .null).value = some .null ∧
      (input.classify "note" .blank).value = some (.string "") ∧
      PredicateRegistry.builtin.holds "size?" (some (.array [])) [.integer 0] = true ∧
      PredicateRegistry.builtin.holds "min_size?" (some (.string "ß")) [.integer 1] = true ∧
      .quantifier ∈ ((schema.validate input).failuresFor "tags").map Failure.check := by
  intro d input
  obtain ⟨hclassify, hsizes, _, hquantifier⟩ := emptiness_agrees
  obtain ⟨schema, h⟩ : ∃ schema, Schema.compile ⟨[d]⟩ Config.json = .ok schema := ⟨_, rfl⟩
  have hnull := (hclassify input "note" .null (.string "") [] rfl).2.2.2.1 ⟨rfl, rfl⟩
  have hblank := (hclassify input "note" .blank (.string "") [] rfl).2.2.2.2 (by simp)
  have hlist : (Value.array []).SizeFits := by simp [Value.SizeFits, Value.size]
  have hletter : (Value.string "ß").SizeFits := by
    rintro n ⟨⟩
    decide
  have hempty := (hsizes _ [] [] hlist).1.mp rfl
  have hfilled := (hsizes _ [] [] hletter).2.2 rfl
  refine ⟨schema, h, hnull, hblank, hempty, hfilled.mp rfl, ?_⟩
  exact (hquantifier ⟨[d]⟩ _ schema h d List.mem_cons_self rfl input).mpr ⟨.array [], rfl, rfl⟩

end Conform
