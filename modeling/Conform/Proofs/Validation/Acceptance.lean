import Conform.Proofs.Evaluation.Standard
import Conform.Proofs.Outcome.Views

/-! When nothing is reported. A key without failures is either excused by its declaration or passes
every check; an input is accepted when each key of the schema is without failures. -/

namespace Conform

namespace Rule

structure Satisfied (rule : Rule) (p : Presence) : Prop where
  there : p.kind ≠ .absent
  filled : ¬ rule.Unfilled p
  coerced : ∀ t, rule.declaredType = some t → (t.coerce p).isCoerced = true
  holds : ∀ q ∈ rule.predicates, q.holds (rule.forwarded p) = true

variable {rule : Rule} {p : Presence}

lemma presenceFailures_eq_nil_iff : presenceFailures p = [] ↔ p.kind ≠ .absent := by
  by_cases h : p.kind = .absent <;> simp [presenceFailures, h]

lemma quantifierFailures_eq_nil_iff : rule.quantifierFailures p = [] ↔ ¬ rule.Unfilled p := by
  by_cases h : rule.Unfilled p <;> simp [quantifierFailures, h]

lemma typeFailures_eq_nil_iff (h : ¬ rule.Unfilled p) :
    rule.typeFailures p = [] ↔
      ∀ t, rule.declaredType = some t → (t.coerce p).isCoerced = true := by
  cases ht : rule.declaredType with
  | none => simp [typeFailures, ht]
  | some t => simp [typeFailures, ht, h]

lemma predicateFailures_eq_nil_iff {subject : Option Value} :
    rule.predicateFailures subject = [] ↔ ∀ q ∈ rule.predicates, q.holds subject = true := by
  simp [predicateFailures, List.filter_eq_nil_iff]

lemma forwarded_of_coerced {t : DeclaredType} {w : Value} {name : String}
    (ht : rule.declaredType = some t) (hf : ¬ rule.Unfilled p) (hc : t.coerce p = .coerced w name) :
    rule.forwarded p = some w := by
  simp [forwarded, ht, hf, hc, TypedValue.subject]

lemma Satisfied.exists_forwarded (h : rule.Satisfied p) {t : DeclaredType}
    (ht : rule.declaredType = some t) :
    ∃ v w, p.value = some v ∧ t.parse v = some w ∧ rule.forwarded p = some w := by
  obtain ⟨v, w, hv, hw, hc⟩ := DeclaredType.exists_of_isCoerced (h.coerced t ht)
  exact ⟨v, w, hv, hw, forwarded_of_coerced ht h.filled hc⟩

end Rule

lemma Pipeline.evaluate_eq_nil_iff {rule : Rule} {input : Input} :
    standard.evaluate rule input = [] ↔
      rule.Excused (input.classify rule.key rule.emptyText) ∨
        rule.Satisfied (input.classify rule.key rule.emptyText) := by
  rw [evaluate_standard]
  by_cases h : rule.Excused (input.classify rule.key rule.emptyText)
  · simp [h]
  · rw [if_neg h, or_iff_right h]
    simp only [List.append_eq_nil_iff, Rule.presenceFailures_eq_nil_iff,
      Rule.quantifierFailures_eq_nil_iff, Rule.predicateFailures_eq_nil_iff]
    constructor
    · rintro ⟨⟨⟨hp, hq⟩, ht⟩, hr⟩
      exact ⟨hp, hq, (Rule.typeFailures_eq_nil_iff hq).mp ht, hr⟩
    · rintro ⟨hp, hq, ht, hr⟩
      exact ⟨⟨⟨hp, hq⟩, (Rule.typeFailures_eq_nil_iff hq).mpr ht⟩, hr⟩

lemma Schema.successful_iff {schema : Schema} {input : Input} :
    (schema.validate input).successful = true ↔
      ∀ rule ∈ schema.rules, Pipeline.standard.evaluate rule input = [] := by
  have hc := Outcome.coherent_ofRecords schema.templates
    (schema.rules.map fun rule => (rule.key, Pipeline.standard.evaluate rule input))
  rw [Schema.validate, hc.successful, ← Schema.validate, Schema.failures_validate]
  simp [List.flatMap_eq_nil_iff]

end Conform
