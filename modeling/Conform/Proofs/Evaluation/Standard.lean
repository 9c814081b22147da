import Conform.Evaluation
import Mathlib.Tactic.Common

/-! The failures of the standard pipeline as a function of the rule and of how its key stands in
the input. Each stage is described once, by what it adds and when it halts. -/

namespace Conform

namespace DeclaredType

lemma coerce_failed {t : DeclaredType} {p : Presence} {raw : Option Value}
    (h : t.coerce p = .failed raw) : raw = p.value := by
  have hr (v : Value) (hv : coerce.typed t v = .failed raw) : raw = some v := by
    rw [coerce.typed] at hv
    cases hp : t.parse v with
    | none => simpa [hp] using hv.symm
    | some w => simp [hp] at hv
  cases p with
  | absent | null => simpa [coerce, Presence.value] using h.symm
  | blank v =>
    cases hb : t.acceptsBlank with
    | false => simpa [coerce, hb, Presence.value] using h.symm
    | true => exact hr v (by simpa [coerce, hb] using h)
  | present v => exact hr v h

variable {t : DeclaredType} {p : Presence}

lemma typed_isCoerced {v : Value} (h : (coerce.typed t v).isCoerced = true) :
    ∃ w, t.parse v = some w ∧ coerce.typed t v = .coerced w t.name := by
  cases hp : t.parse v with
  | none => simp [coerce.typed, hp, TypedValue.isCoerced] at h
  | some w => exact ⟨w, rfl, by simp [coerce.typed, hp]⟩

lemma exists_of_isCoerced (h : (t.coerce p).isCoerced = true) :
    ∃ v w, p.value = some v ∧ t.parse v = some w ∧ t.coerce p = .coerced w t.name := by
  cases p with
  | absent | null => simp [coerce, TypedValue.isCoerced] at h
  | blank v =>
    cases hb : t.acceptsBlank with
    | false => simp [coerce, hb, TypedValue.isCoerced] at h
    | true =>
      obtain ⟨w, hw, hc⟩ := typed_isCoerced (t := t) (v := v) (by simpa [coerce, hb] using h)
      exact ⟨v, w, rfl, hw, by simpa [coerce, hb] using hc⟩
  | present v =>
    obtain ⟨w, hw, hc⟩ := typed_isCoerced (t := t) (v := v) h
    exact ⟨v, w, rfl, hw, hc⟩

end DeclaredType

namespace Rule

def Excused (rule : Rule) (p : Presence) : Prop :=
  p.kind = .absent ∧ rule.requiredness = .optional ∨ p.kind = .null ∧ rule.quantifier = .maybe

def Unfilled (rule : Rule) (p : Presence) : Prop :=
  rule.quantifier = .filled ∧ (p.kind = .null ∨ p.kind = .blank)

instance (rule : Rule) (p : Presence) : Decidable (rule.Excused p) :=
  inferInstanceAs (Decidable (_ ∨ _))

instance (rule : Rule) (p : Presence) : Decidable (rule.Unfilled p) :=
  inferInstanceAs (Decidable (_ ∧ _))

def forwarded (rule : Rule) (p : Presence) : Option Value :=
  match rule.declaredType with
  | some t => if rule.Unfilled p then p.value else (t.coerce p).subject
  | none => p.value

def subject (rule : Rule) (input : Input) : Option Value :=
  rule.forwarded (input.classify rule.key rule.emptyText)

def presenceFailures (p : Presence) : List FailedCheck :=
  if p.kind = .absent then [.bare .keyPresence] else []

def quantifierFailures (rule : Rule) (p : Presence) : List FailedCheck :=
  if rule.Unfilled p then [.bare .quantifier] else []

def typeFailures (rule : Rule) (p : Presence) : List FailedCheck :=
  match rule.declaredType with
  | some t =>
    if ¬ rule.Unfilled p ∧ (t.coerce p).isCoerced = false then [.bare (.type t.name)] else []
  | none => []

def predicateFailures (rule : Rule) (subject : Option Value) : List FailedCheck :=
  (rule.predicates.filter fun q => !q.holds subject).map Stage.failedPredicate

variable {rule : Rule} {p : Presence} {c : FailedCheck}

lemma required_of_not_excused (h : ¬ rule.Excused p) (ha : p.kind = .absent) :
    rule.requiredness = .required := by
  cases hr : rule.requiredness with
  | required => rfl
  | optional => exact absurd (.inl ⟨ha, hr⟩) h

lemma mem_presenceFailures :
    c ∈ presenceFailures p ↔ c = .bare .keyPresence ∧ p.kind = .absent := by
  by_cases h : p.kind = .absent <;> simp [presenceFailures, h]

lemma mem_quantifierFailures :
    c ∈ rule.quantifierFailures p ↔ c = .bare .quantifier ∧ rule.Unfilled p := by
  by_cases h : rule.Unfilled p <;> simp [quantifierFailures, h]

lemma mem_typeFailures :
    c ∈ rule.typeFailures p ↔ ∃ t, rule.declaredType = some t ∧ ¬ rule.Unfilled p ∧
      (t.coerce p).isCoerced = false ∧ c = .bare (.type t.name) := by
  cases ht : rule.declaredType with
  | none => simp [typeFailures, ht]
  | some t =>
    simp only [typeFailures, ht, List.mem_ite_nil_right, List.mem_singleton, and_assoc,
      Option.some.injEq, exists_eq_left']

lemma mem_predicateFailures {subject : Option Value} :
    c ∈ rule.predicateFailures subject ↔ ∃ q ∈ rule.predicates,
      q.holds subject = false ∧ c = Stage.failedPredicate q := by
  simp only [predicateFailures, List.mem_map, List.mem_filter, Bool.not_eq_true', and_assoc,
    eq_comm (a := c)]

end Rule

namespace Stage

variable {rule : Rule} {e : Evaluation}

lemma keyPresence_halts (h : e.presence.kind = .absent) (ho : rule.requiredness = .optional) :
    keyPresence.run rule e = (.halt, e) := by
  simp [keyPresence, KeyCheck.of, h, ho]

lemma keyPresence_proceeds (h : ¬ (e.presence.kind = .absent ∧ rule.requiredness = .optional)) :
    keyPresence.run rule e =
      (.proceed, { e with failures := e.failures ++ Rule.presenceFailures e.presence }) := by
  cases hr : rule.requiredness <;> cases hk : e.presence.kind <;>
    simp_all [keyPresence, KeyCheck.of, Rule.presenceFailures, Evaluation.fail]

lemma quantifier_halts (h : e.presence.kind = .null) (hm : rule.quantifier = .maybe) :
    quantifier.run rule e = (.halt, e) := by
  simp [quantifier, Guard.of, Guard.nullAccepted, h, hm]

lemma quantifier_proceeds (h : ¬ (e.presence.kind = .null ∧ rule.quantifier = .maybe)) :
    quantifier.run rule e =
      (.proceed, { e with
        skipType := decide (rule.Unfilled e.presence)
        failures := e.failures ++ rule.quantifierFailures e.presence }) := by
  cases hq : rule.quantifier <;> cases hk : e.presence.kind <;>
    simp_all [quantifier, Guard.of, Guard.pass, Guard.unfilled, Rule.quantifierFailures,
      Rule.Unfilled, Evaluation.fail]

lemma type_proceeds (hs : e.skipType = decide (rule.Unfilled e.presence))
    (hv : e.subject = e.presence.value) :
    type.run rule e =
      (.proceed, { e with
        subject := rule.forwarded e.presence
        failures := e.failures ++ rule.typeFailures e.presence }) := by
  obtain ⟨p, subject, skipType, failures⟩ := e
  obtain rfl : skipType = decide (rule.Unfilled p) := hs
  obtain rfl : subject = p.value := hv
  cases ht : rule.declaredType with
  | none => simp [type, Rule.forwarded, Rule.typeFailures, ht]
  | some t =>
    by_cases hu : rule.Unfilled p
    · simp [type, Rule.forwarded, Rule.typeFailures, ht, hu]
    · cases hc : t.coerce p with
      | coerced v name =>
        simp [type, Rule.forwarded, Rule.typeFailures, ht, hu, hc, TypedValue.subject,
          TypedValue.isCoerced]
      | failed raw =>
        -- the value is left alone, and a failed coercion carries just that value
        have hr : raw = p.value := DeclaredType.coerce_failed hc
        simp [type, Rule.forwarded, Rule.typeFailures, ht, hu, hc, TypedValue.subject,
          TypedValue.isCoerced, Evaluation.fail, hr]

lemma predicates_proceeds :
    predicates.run rule e =
      (.proceed, { e with failures := e.failures ++ rule.predicateFailures e.subject }) := rfl

end Stage

namespace Pipeline

variable {rule : Rule} {input : Input}

lemma evaluate_excused (h : rule.Excused (input.classify rule.key rule.emptyText)) :
    standard.evaluate rule input = [] := by
  rcases h with ⟨ha, ho⟩ | ⟨hn, hm⟩
  · have hp : Stage.keyPresence.run rule (Evaluation.start rule input) = (.halt, _) :=
      Stage.keyPresence_halts ha ho
    simp only [evaluate, standard, run, hp]
    rfl
  · have ha : ¬ ((Evaluation.start rule input).presence.kind = .absent
        ∧ rule.requiredness = .optional) := by simp [Evaluation.start, hn]
    simp only [evaluate, standard, run, Stage.keyPresence_proceeds ha]
    rw [Stage.quantifier_halts (by simpa [Evaluation.start] using hn) hm]
    simp [Evaluation.start, Rule.presenceFailures, hn]

lemma evaluate_standard (rule : Rule) (input : Input) :
    let p := input.classify rule.key rule.emptyText
    standard.evaluate rule input =
      if rule.Excused p then []
      else Rule.presenceFailures p ++ rule.quantifierFailures p ++ rule.typeFailures p
        ++ rule.predicateFailures (rule.subject input) := by
  intro p
  by_cases h : rule.Excused p
  · rw [if_pos h, evaluate_excused h]
  · obtain ⟨ha, hn⟩ := not_or.mp h
    rw [if_neg h]
    simp only [evaluate, standard, run]
    rw [Stage.keyPresence_proceeds ha]
    simp only
    rw [Stage.quantifier_proceeds hn]
    simp only
    rw [Stage.type_proceeds rfl rfl]
    simp only [Stage.predicates_proceeds]
    simp [Evaluation.start, Rule.subject, p]

lemma evaluate_absent (h : input.get? rule.key = none) (hr : rule.requiredness = .required) :
    standard.evaluate rule input =
      .bare .keyPresence :: (rule.declaredType.map fun t => .bare (.type t.name)).toList
        ++ rule.predicateFailures none := by
  have hp : input.classify rule.key rule.emptyText = .absent := by rw [Input.classify, h]; rfl
  have hexcused : ¬ rule.Excused .absent := by simp [Rule.Excused, Presence.kind, hr]
  have hunfilled : ¬ rule.Unfilled .absent := by simp [Rule.Unfilled, Presence.kind]
  have hsubject : rule.forwarded .absent = none := by
    cases ht : rule.declaredType with
    | none => simp [Rule.forwarded, ht, Presence.value]
    | some t => simp [Rule.forwarded, ht, hunfilled, DeclaredType.coerce, TypedValue.subject]
  have htype : rule.typeFailures .absent
      = (rule.declaredType.map fun t => .bare (.type t.name)).toList := by
    cases ht : rule.declaredType with
    | none => simp [Rule.typeFailures, ht]
    | some t =>
      simp [Rule.typeFailures, ht, hunfilled, DeclaredType.coerce, TypedValue.isCoerced]
  rw [evaluate_standard, hp, if_neg hexcused, Rule.subject, hp, hsubject, htype]
  simp [Rule.presenceFailures, Rule.quantifierFailures, Presence.kind, hunfilled]

lemma evaluate_value {t : DeclaredType} {p : Presence}
    (hp : input.classify rule.key rule.emptyText = p) (hthere : p.kind ≠ .absent)
    (hq : rule.quantifier = .value) (ht : rule.declaredType = some t) :
    standard.evaluate rule input =
      (if (t.coerce p).isCoerced then [] else [.bare (.type t.name)])
        ++ rule.predicateFailures (t.coerce p).subject := by
  have hexcused : ¬ rule.Excused p := by simp [Rule.Excused, hthere, hq]
  have hunfilled : ¬ rule.Unfilled p := by simp [Rule.Unfilled, hq]
  have hforwarded : rule.forwarded p = (t.coerce p).subject := by
    simp [Rule.forwarded, ht, hunfilled]
  rw [evaluate_standard, hp, if_neg hexcused, Rule.subject, hp, hforwarded]
  cases hc : (t.coerce p).isCoerced <;>
    simp [Rule.presenceFailures, Rule.quantifierFailures, Rule.typeFailures, ht, hthere, hunfilled, hc]

lemma mem_evaluate {c : FailedCheck} (h : c ∈ standard.evaluate rule input) :
    c = .bare .keyPresence ∧ rule.requiredness = .required
      ∨ c = .bare .quantifier ∧ rule.quantifier = .filled
      ∨ (∃ t, rule.declaredType = some t ∧ c = .bare (.type t.name))
      ∨ ∃ q ∈ rule.predicates, q.holds (rule.subject input) = false
          ∧ c = Stage.failedPredicate q := by
  rw [evaluate_standard] at h
  split at h
  · cases h
  · next hex =>
    simp only [List.mem_append] at h
    rcases h with ((hp | hq) | ht) | hr
    · obtain ⟨rfl, ha⟩ := Rule.mem_presenceFailures.mp hp
      exact .inl ⟨rfl, Rule.required_of_not_excused hex ha⟩
    · obtain ⟨rfl, hu⟩ := Rule.mem_quantifierFailures.mp hq
      exact .inr (.inl ⟨rfl, hu.1⟩)
    · obtain ⟨t, hd, _, _, rfl⟩ := Rule.mem_typeFailures.mp ht
      exact .inr (.inr (.inl ⟨t, hd, rfl⟩))
    · exact .inr (.inr (.inr (Rule.mem_predicateFailures.mp hr)))

theorem evaluate_eq_append (rule : Rule) (input : Input) :
    let p := input.classify rule.key rule.emptyText
    let unfilled := rule.quantifier = .filled ∧ (p.kind = .null ∨ p.kind = .blank)
    let forwarded := match rule.declaredType with
      | some t => if unfilled then p.value else (t.coerce p).subject
      | none => p.value
    standard.evaluate rule input =
      if p.kind = .absent ∧ rule.requiredness = .optional
          ∨ p.kind = .null ∧ rule.quantifier = .maybe then []
      else (if p.kind = .absent then [⟨.keyPresence, []⟩] else [])
        ++ (if unfilled then [⟨.quantifier, []⟩] else [])
        ++ (match rule.declaredType with
            | some t =>
              if ¬ unfilled ∧ (t.coerce p).isCoerced = false then [⟨.type t.name, []⟩] else []
            | none => [])
        ++ (rule.predicates.filter fun q => !q.check forwarded q.args).map
            fun q => ⟨.predicate q.name, q.namedArgs⟩ := by
  intro p unfilled forwarded
  rw [evaluate_standard]
  rfl

end Pipeline

end Conform
