import Conform.Proofs.Validation.Contradiction
import Conform.Proofs.Validation.Emptiness
import Conform.Proofs.Validation.Wording

/-! Messages of one key that are the same. Nothing removes them, so a text is repeated just when two
failed checks are in the same words with the same arguments to show: a predicate that is declared twice,
or the predicate that says what the quantifier says. A type and its predicate would be a third pair, but
the predicate is left out there. -/

namespace Conform

open Compile FailedCheck

/-- One predicate twice, with arguments that look the same in a message. -/
def PredicateDeclaration.ReadsLike (q q' : PredicateDeclaration) : Prop :=
  q.name = q'.name ∧ q.args.map Value.display = q'.args.map Value.display

instance (q q' : PredicateDeclaration) : Decidable (q.ReadsLike q') :=
  inferInstanceAs (Decidable (_ ∧ _))

structure KeyDeclaration.AsksOnce (d : KeyDeclaration) : Prop where
  filled : ¬ (d.quantifier = .filled ∧ ∃ q ∈ d.predicates, q.name = "filled?")
  predicates : d.predicates.Pairwise fun q q' => ¬ q.ReadsLike q'

instance (d : KeyDeclaration) : Decidable d.AsksOnce :=
  decidable_of_iff (¬ (d.quantifier = .filled ∧ ∃ q ∈ d.predicates, q.name = "filled?") ∧
    d.predicates.Pairwise fun q q' => ¬ q.ReadsLike q') ⟨fun h => ⟨h.1, h.2⟩, fun h => ⟨h.1, h.2⟩⟩

lemma pairwise_ite_singleton {α : Type} (R : α → α → Prop) (q : Prop) [Decidable q] (a : α) :
    (if q then [a] else []).Pairwise R := by
  split <;> simp

namespace Rule

variable {rule : Rule} {p : Presence} {input : Input}

lemma forwarded_of_unfilled (h : rule.Unfilled p) : rule.forwarded p = p.value := by
  rw [forwarded]
  cases rule.declaredType with
  | none => rfl
  | some t => exact if_pos h

lemma pairwise_typeFailures (R : FailedCheck → FailedCheck → Prop) (rule : Rule) (p : Presence) :
    (rule.typeFailures p).Pairwise R := by
  rw [typeFailures]
  cases rule.declaredType with
  | none => exact .nil
  | some t => exact pairwise_ite_singleton R _ _

lemma not_filled_of_unfilled (h : rule.Unfilled (input.classify rule.key rule.emptyText))
    (args : List Value) :
    Predicate.filled (rule.subject input) args = false := by
  rw [subject, forwarded_of_unfilled h]
  by_cases hnull : (input.classify rule.key rule.emptyText).kind = .null
  · rw [Presence.value_of_kind_null hnull]
    rfl
  · obtain ⟨v, hv, hempty⟩ := (Presence.unfilled_iff args).mp h.2
    have hvalue : (input.classify rule.key rule.emptyText).value = some v :=
      (Presence.value_classify hnull).trans hv
    rw [hvalue]
    exact hempty

end Rule

section Rejected

variable {style : InputStyle} {d : KeyDeclaration} {rule : Rule} {input : Input} {p : Presence}
  {c c' : FailedCheck}

def rejected (config : Config) (d : KeyDeclaration) (input : Input) : List PredicateDeclaration :=
  (remaining config d).filter fun q =>
    !config.predicates.holds q.name ((ruleOf config d).subject input) q.args

lemma Compile.Realizes.holds_eq {config : Config} (h : Realizes config d rule) {r : PredicateRule}
    (hr : r ∈ rule.predicates) (subject : Option Value) :
    r.holds subject = config.predicates.holds r.name subject r.args := by
  obtain ⟨p, hp, _, _, hcheck⟩ := h.resolved r hr
  rw [PredicateRegistry.holds, hp, Option.any_some, PredicateRule.holds, hcheck]

lemma map_rejected {config : Config} (hd : Compilable config d) (input : Input) :
    ((ruleOf config d).predicates.filter fun r => !r.holds ((ruleOf config d).subject input)).map
        (fun r => (r.name, r.args))
      = (rejected config d input).map fun q => (q.name, q.args) := by
  let rejects (e : String × List Value) : Bool :=
    !config.predicates.holds e.1 ((ruleOf config d).subject input) e.2
  have hrules : (ruleOf config d).predicates.filter
      (fun r => !r.holds ((ruleOf config d).subject input))
      = (ruleOf config d).predicates.filter fun r => rejects (r.name, r.args) := by
    refine List.filter_congr fun r hr => ?_
    rw [hd.realizes.holds_eq hr]
  have hnamed := congrArg (List.filter rejects) hd.realizes.predicates
  rw [List.filter_map, List.filter_map] at hnamed
  rw [hrules]
  exact hnamed

lemma exists_declared {config : Config} {r : PredicateRule}
    (hr : r ∈ (ruleOf config d).predicates) : ∃ q ∈ remaining config d, q.name = r.name := by
  obtain ⟨q, hq, hrule⟩ := List.mem_filterMap.mp hr
  obtain ⟨_, _, rfl⟩ := Option.map_eq_some_iff.mp hrule
  exact ⟨q, hq, rfl⟩

lemma ne_of_mem_typeFailures (hd : Compilable (.forStyle style) d)
    (hc : c ∈ (ruleOf (.forStyle style) d).typeFailures p) {r : PredicateRule}
    (hr : r ∈ (ruleOf (.forStyle style) d).predicates) :
    c.message ≠ (Stage.failedPredicate r).message := by
  obtain ⟨t, ht, -, -, rfl⟩ := Rule.mem_typeFailures.mp hc
  obtain ⟨p, hp, hsaid⟩ := exists_says_type (declaredType_mem ht)
  obtain ⟨p', hp', hsaid'⟩ := hd.realizes.exists_says_predicate hr
  intro heq
  have hname := (hsaid.message_eq_iff_of_bare hsaid').mp heq
  -- the predicate of the declared type is not among those that were kept
  obtain ⟨q, hq, hqname⟩ := exists_declared hr
  have hkept : keeps (some t) q = true := by
    rw [← ht]
    exact (List.mem_filter.mp hq).2
  rw [keeps, Option.all_some, bne_iff_ne, hqname, ← hp', ← hname, hp] at hkept
  exact hkept rfl

lemma pairwise_outerFailures (style : InputStyle) (d : KeyDeclaration) (p : Presence) :
    (Rule.presenceFailures p ++ (ruleOf (.forStyle style) d).quantifierFailures p
      ++ (ruleOf (.forStyle style) d).typeFailures p).Pairwise fun c c' => c.message ≠ c'.message := by
  rw [List.pairwise_append, List.pairwise_append]
  refine ⟨⟨pairwise_ite_singleton _ _ _, pairwise_ite_singleton _ _ _, ?_⟩,
    Rule.pairwise_typeFailures _ _ p, ?_⟩
  · intro c hc c' hc'
    obtain ⟨rfl, -⟩ := Rule.mem_presenceFailures.mp hc
    obtain ⟨rfl, -⟩ := Rule.mem_quantifierFailures.mp hc'
    obtain ⟨_, -, hsaid⟩ := exists_says_quantifier
    exact hsaid.ne_missing.symm
  · intro c hc c' hc'
    obtain ⟨t, ht, hunfilled, -, rfl⟩ := Rule.mem_typeFailures.mp hc'
    rcases List.mem_append.mp hc with hc | hc
    · obtain ⟨rfl, -⟩ := Rule.mem_presenceFailures.mp hc
      obtain ⟨_, -, hsaid⟩ := exists_says_type (declaredType_mem ht)
      exact hsaid.ne_missing.symm
    · exact absurd (Rule.mem_quantifierFailures.mp hc).2 hunfilled

lemma exists_rejecting_filled (hd : Compilable (.forStyle style) d)
    (h : (ruleOf (.forStyle style) d).Unfilled
      (input.classify d.key (ruleOf (.forStyle style) d).emptyText))
    {q : PredicateDeclaration} (hq : q ∈ d.predicates) (hname : q.name = "filled?") :
    ∃ r ∈ (ruleOf (.forStyle style) d).predicates, r.name = "filled?" ∧
      r.holds ((ruleOf (.forStyle style) d).subject input) = false := by
  have hkept : keeps (declaredType (.forStyle style) d) q = true := by
    have hother : ∀ t ∈ DeclaredType.ofStyle style, "filled?" ≠ t.typePredicate := by
      cases style <;> decide
    cases ht : declaredType (.forStyle style) d with
    | none => rfl
    | some t =>
      rw [keeps, Option.all_some, bne_iff_ne, hname]
      exact hother t (declaredType_mem ht)
  have hpair : (q.name, q.args) ∈ (remaining (.forStyle style) d).map fun q => (q.name, q.args) :=
    List.mem_map_of_mem (List.mem_filter.mpr ⟨hq, hkept⟩)
  rw [← hd.realizes.predicates] at hpair
  obtain ⟨r, hr, heq⟩ := List.mem_map.mp hpair
  have hrname : r.name = "filled?" := (congrArg Prod.fst heq).trans hname
  refine ⟨r, hr, hrname, ?_⟩
  rw [hd.realizes.holds_eq hr, hrname]
  exact Rule.not_filled_of_unfilled h r.args

lemma outerFailures_ne_iff (hd : Compilable (.forStyle style) d) (input : Input) :
    let rule := ruleOf (.forStyle style) d
    let p := input.classify rule.key rule.emptyText
    (∀ c ∈ Rule.presenceFailures p ++ rule.quantifierFailures p ++ rule.typeFailures p,
        ∀ c' ∈ rule.predicateFailures (rule.subject input), c.message ≠ c'.message) ↔
      ¬ (rule.Unfilled p ∧ ∃ q ∈ d.predicates, q.name = "filled?") := by
  intro rule p
  obtain ⟨filled, hfilled, hsaid⟩ := exists_says_quantifier
  constructor
  · rintro hall ⟨hunfilled, q, hq, hname⟩
    obtain ⟨r, hr, hrname, hrejects⟩ := exists_rejecting_filled hd hunfilled hq hname
    obtain ⟨p', hp', hsaid'⟩ := hd.realizes.exists_says_predicate hr
    have hmem : FailedCheck.bare .quantifier
        ∈ Rule.presenceFailures p ++ rule.quantifierFailures p ++ rule.typeFailures p := by
      apply List.mem_append_left
      apply List.mem_append_right
      exact Rule.mem_quantifierFailures.mpr ⟨rfl, hunfilled⟩
    apply hall _ hmem _ (Rule.mem_predicateFailures.mpr ⟨r, hr, hrejects, rfl⟩)
    exact (hsaid.message_eq_iff_of_bare hsaid').mpr (hfilled.trans (hp'.trans hrname).symm)
  · intro hnot c hc c' hc' heq
    obtain ⟨r, hr, -, rfl⟩ := Rule.mem_predicateFailures.mp hc'
    obtain ⟨p', hp', hsaid'⟩ := hd.realizes.exists_says_predicate hr
    simp only [List.mem_append] at hc
    rcases hc with (hc | hc) | hc
    · obtain ⟨rfl, -⟩ := Rule.mem_presenceFailures.mp hc
      exact hsaid'.ne_missing heq.symm
    · obtain ⟨rfl, hunfilled⟩ := Rule.mem_quantifierFailures.mp hc
      have hname := (hsaid.message_eq_iff_of_bare hsaid').mp heq
      obtain ⟨q, hq, hqname⟩ := exists_declared hr
      apply hnot
      exact ⟨hunfilled, q, List.mem_of_mem_filter hq, by rw [hqname, ← hp', ← hname, hfilled]⟩
    · exact ne_of_mem_typeFailures hd hc hr heq

lemma pairwise_predicateFailures_iff (hd : Compilable (.forStyle style) d) (input : Input) :
    let rule := ruleOf (.forStyle style) d
    (rule.predicateFailures (rule.subject input)).Pairwise (fun c c' => c.message ≠ c'.message) ↔
      (rejected (.forStyle style) d input).Pairwise fun q q' => ¬ q.ReadsLike q' := by
  intro rule
  let differ (e e' : String × List Value) : Prop :=
    ¬ (e.1 = e'.1 ∧ e.2.map Value.display = e'.2.map Value.display)
  have hrules : ((rule.predicates.filter fun r => !r.holds (rule.subject input)).Pairwise
      fun r r' => (Stage.failedPredicate r).message ≠ (Stage.failedPredicate r').message) ↔
      (rule.predicates.filter fun r => !r.holds (rule.subject input)).Pairwise
        fun r r' => differ (r.name, r.args) (r'.name, r'.args) := by
    apply List.Pairwise.iff_of_mem
    intro r r' hr hr'
    obtain ⟨p, hp, hsaid⟩ := hd.realizes.exists_says_predicate (List.mem_of_mem_filter hr)
    obtain ⟨p', hp', hsaid'⟩ := hd.realizes.exists_says_predicate (List.mem_of_mem_filter hr')
    rw [Ne, hsaid.message_eq_iff hsaid', hp, hp']
  have hpairs := map_rejected hd input
  rw [Rule.predicateFailures, List.pairwise_map, hrules, ← List.pairwise_map, hpairs,
    List.pairwise_map]
  rfl

lemma nodup_evaluate_iff (hd : Compilable (.forStyle style) d) (input : Input) :
    let rule := ruleOf (.forStyle style) d
    let p := input.classify rule.key rule.emptyText
    ((Pipeline.standard.evaluate rule input).map FailedCheck.message).Nodup ↔
      rule.Excused p ∨ ¬ (rule.Unfilled p ∧ ∃ q ∈ d.predicates, q.name = "filled?") ∧
        (rejected (.forStyle style) d input).Pairwise fun q q' => ¬ q.ReadsLike q' := by
  intro rule p
  rw [Pipeline.evaluate_standard]
  by_cases hexcused : rule.Excused p
  · rw [if_pos hexcused]
    exact iff_of_true List.nodup_nil (.inl hexcused)
  · rw [if_neg hexcused, or_iff_right hexcused, List.Nodup, List.pairwise_map, List.pairwise_append,
      and_iff_right (pairwise_outerFailures style d p)]
    exact (and_congr (pairwise_predicateFailures_iff hd input) (outerFailures_ne_iff hd input)).trans
      and_comm

end Rejected

/-- A message stands twice under a key just when two failed checks of it read alike: the quantifier
`filled` and the predicate `filled?`, or two predicates of one name whose arguments have the same text.
Nothing removes such a message; but a declaration that asks for nothing twice in the same words never
gets one. -/
theorem messages_repeated_iff (style : InputStyle) (declaration : SchemaDeclaration) (schema : Schema)
    (h : Schema.compile declaration (.forStyle style) = .ok schema) :
    ((∀ d ∈ declaration.keys, d.AsksOnce) →
        ∀ (input : Input) (key : String), ((schema.validate input).messagesFor key).Nodup) ∧
      ∀ d ∈ declaration.keys, ∀ input : Input,
        let rule := ruleOf (.forStyle style) d
        let p := input.classify d.key rule.emptyText
        ((schema.validate input).messagesFor d.key).Nodup ↔
          (p.kind = .absent ∧ d.requiredness = .optional ∨ p.kind = .null ∧ d.quantifier = .maybe) ∨
            ¬ ((d.quantifier = .filled ∧ (p.kind = .null ∨ p.kind = .blank)) ∧
              ∃ q ∈ d.predicates, q.name = "filled?") ∧
            (rejected (.forStyle style) d input).Pairwise fun q q' => ¬ q.ReadsLike q' := by
  have hmessages (d : KeyDeclaration) (hd : d ∈ declaration.keys) (input : Input) :
      (schema.validate input).messagesFor d.key
        = (Pipeline.standard.evaluate (ruleOf (.forStyle style) d) input).map FailedCheck.message :=
    Schema.messagesFor_of_mem h input hd
  have hnodup (d : KeyDeclaration) (hd : d ∈ declaration.keys) (input : Input) :=
    nodup_evaluate_iff ((schema_eq_ok_iff.mp h).1.compilable d hd) input
  refine ⟨fun hall input key => ?_, ?_⟩
  · by_cases hkey : key ∈ declaration.keys.map KeyDeclaration.key
    · obtain ⟨d, hd, rfl⟩ := List.mem_map.mp hkey
      obtain ⟨hfilled, hpredicates⟩ := hall d hd
      rw [hmessages d hd]
      refine (hnodup d hd input).mpr (.inr ⟨?_, (hpredicates.filter _).filter _⟩)
      rintro ⟨⟨hquantifier, _⟩, hq⟩
      exact hfilled ⟨hquantifier, hq⟩
    · rw [Schema.messagesFor_validate, Schema.failuresFor_of_not_mem h input hkey]
      exact List.nodup_nil
  · intro d hd input rule p
    rw [hmessages d hd]
    exact hnodup d hd input

theorem messages_repeated_iff_text :
    let n := (((((KeyDeclaration.required "n").value "integer").predicate "int?").check "lt?"
      (.integer 1)).check "lteq?" (.integer 1)).check "eql?" (.string "2")
    let code := (((KeyDeclaration.required "code").value "string").check "eql?" (.integer 1)).check
      "eql?" (.string "1")
    let text := Input.ofEntries [("n", .string "x"), ("code", .string "x")]
    let numeral := Input.ofEntries [("code", .string "1")]
    ∃ schema schema', Schema.compile ⟨[n]⟩ Config.params = .ok schema ∧
      Schema.compile ⟨[code]⟩ Config.params = .ok schema' ∧
      (schema.validate text).messagesFor "n" = ["must be an integer", "must be less than 1",
        "must be less than or equal to 1", "must be equal to 2"] ∧
      ((schema.validate text).messagesFor "n").Nodup ∧
      ¬ ((schema'.validate text).messagesFor "code").Nodup ∧
      ((schema'.validate numeral).messagesFor "code").Nodup := by
  intro n code text numeral
  obtain ⟨schema, h⟩ : ∃ schema, Schema.compile ⟨[n]⟩ Config.params = .ok schema := ⟨_, rfl⟩
  obtain ⟨schema', h'⟩ : ∃ schema, Schema.compile ⟨[code]⟩ Config.params = .ok schema := ⟨_, rfl⟩
  have hmessages : (Schema.compile ⟨[n]⟩ Config.params).map
      (fun schema => (schema.validate text).messagesFor "n") = .ok ["must be an integer",
        "must be less than 1", "must be less than or equal to 1", "must be equal to 2"] := by
    decide +kernel
  rw [h] at hmessages
  have hn : n.AsksOnce := by decide +kernel
  have hdistinct := (messages_repeated_iff .params ⟨[n]⟩ schema h).1
    (List.forall_mem_singleton.mpr hn) text "n"
  have hcode := (messages_repeated_iff .params ⟨[code]⟩ schema' h').2 code List.mem_cons_self
  refine ⟨schema, schema', h, h', Except.ok.inj hmessages, hdistinct, mt (hcode text).mp ?_,
    (hcode numeral).mpr ?_⟩
  · decide +kernel
  · decide +kernel

/-- To declare no predicate twice with equal arguments is not enough: a null is reported by the quantifier
and by a predicate, and an integer and its numeral read alike. -/
theorem messages_repeated_filled :
    let name := ((KeyDeclaration.required "name").filled "string").predicate "filled?"
    let code := (((KeyDeclaration.required "code").value "string").check "eql?" (.integer 1)).check
      "eql?" (.string "1")
    let input := Input.ofEntries [("name", .null), ("code", .string "x")]
    ∃ schema, Schema.compile ⟨[name, code]⟩ Config.params = .ok schema ∧
      (∀ d ∈ [name, code], d.predicates.Pairwise fun q q' =>
        ¬ (q.name = q'.name ∧ (q.args == q'.args) = true)) ∧
      (schema.validate input).messagesFor "name" = ["must be filled", "must be filled"] ∧
      (schema.validate input).messagesFor "code" = ["must be equal to 1", "must be equal to 1"] ∧
      ¬ ((schema.validate input).messagesFor "name").Nodup ∧
      ¬ ((schema.validate input).messagesFor "code").Nodup := by
  intro name code input
  have hmessages : (Schema.compile ⟨[name, code]⟩ Config.params).map (fun schema =>
      ((schema.validate input).messagesFor "name", (schema.validate input).messagesFor "code"))
      = .ok (["must be filled", "must be filled"],
          ["must be equal to 1", "must be equal to 1"]) := by decide +kernel
  obtain ⟨schema, h⟩ : ∃ schema, Schema.compile ⟨[name, code]⟩ Config.params = .ok schema := ⟨_, rfl⟩
  rw [h] at hmessages
  obtain ⟨hname, hcode⟩ := Prod.mk.inj (Except.ok.inj hmessages)
  refine ⟨schema, h, by decide +kernel, hname, hcode, ?_, ?_⟩
  · rw [hname]
    decide
  · rw [hcode]
    decide

end Conform
