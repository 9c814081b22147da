import Conform.Proofs.Validation.Acceptance

/-! Requiredness and quantifiers in the order of what they accept. They decide on presence alone: what
they let through to the type and the predicates gets the same answer under all of them. -/

namespace Conform

namespace Rule

def asking (rule : Rule) (requiredness : Requiredness) (quantifier : Quantifier) : Rule :=
  { rule with requiredness, quantifier }

def Accepts (rule : Rule) (input : Input) : Prop := Pipeline.standard.evaluate rule input = []

def Passes (rule : Rule) (p : Presence) : Prop := (rule.asking .required .value).Satisfied p

variable {rule : Rule} {r : Requiredness} {q : Quantifier} {p : Presence} {input : Input}

lemma not_unfilled_value : ¬ (rule.asking r .value).Unfilled p := fun h => nomatch h.1

lemma forwarded_asking (h : ¬ (rule.asking r q).Unfilled p) :
    (rule.asking r q).forwarded p = (rule.asking .required .value).forwarded p := by
  cases ht : rule.declaredType with
  | none => simp only [forwarded, asking, ht]
  | some t =>
    have hr : (rule.asking r q).declaredType = some t := ht
    have hv : (rule.asking .required .value).declaredType = some t := ht
    simp only [forwarded, hr, hv, h, not_unfilled_value, if_false]

lemma satisfied_asking_iff :
    (rule.asking r q).Satisfied p ↔ ¬ (rule.asking r q).Unfilled p ∧ rule.Passes p := by
  constructor
  · intro h
    refine ⟨h.filled, h.there, not_unfilled_value, h.coerced, fun s hs => ?_⟩
    rw [← forwarded_asking h.filled]
    exact h.holds s hs
  · rintro ⟨hu, h⟩
    refine ⟨h.there, hu, h.coerced, fun s hs => ?_⟩
    rw [forwarded_asking hu]
    exact h.holds s hs

lemma accepts_asking_iff (hp : input.classify rule.key rule.emptyText = p) :
    (rule.asking r q).Accepts input ↔
      (p.kind = .absent ∧ r = .optional ∨ p.kind = .null ∧ q = .maybe) ∨
        ¬ (q = .filled ∧ (p.kind = .null ∨ p.kind = .blank)) ∧ rule.Passes p := by
  subst hp
  exact Pipeline.evaluate_eq_nil_iff.trans (or_congr Iff.rfl satisfied_asking_iff)

lemma evaluate_asking_absent (h : input.get? rule.key = none) (r : Requiredness)
    (q q' : Quantifier) :
    Pipeline.standard.evaluate (rule.asking r q) input
      = Pipeline.standard.evaluate (rule.asking r q') input := by
  cases r with
  | optional =>
    have hkind : (input.classify rule.key rule.emptyText).kind = .absent :=
      Presence.kind_classify_absent_iff.mpr h
    have hexcused (q : Quantifier) : (rule.asking .optional q).Excused
        (input.classify rule.key rule.emptyText) := .inl ⟨hkind, rfl⟩
    rw [Pipeline.evaluate_excused (hexcused q), Pipeline.evaluate_excused (hexcused q')]
  | required =>
    have hfailures (q : Quantifier) : Pipeline.standard.evaluate (rule.asking .required q) input
        = .bare .keyPresence :: (rule.declaredType.map fun t => .bare (.type t.name)).toList
          ++ rule.predicateFailures none := Pipeline.evaluate_absent h rfl
    rw [hfailures q, hfailures q']

end Rule

/-- A filled key is accepted as one with a value that is neither null nor blank, a key that may be null
as one with a value or null, and an optional key as a required one or absent. Where the key is
absent the quantifiers cannot be told apart. -/
theorem acceptance_ordered (rule : Rule) (input : Input) :
    let p := input.classify rule.key rule.emptyText
    (∀ r, (rule.asking r .filled).Accepts input ↔
      (rule.asking r .value).Accepts input ∧ p.kind ≠ .null ∧ p.kind ≠ .blank) ∧
    (∀ r, (rule.asking r .maybe).Accepts input ↔
      (rule.asking r .value).Accepts input ∨ p.kind = .null) ∧
    (p.kind = .absent → ∀ r q q', Pipeline.standard.evaluate (rule.asking r q) input
      = Pipeline.standard.evaluate (rule.asking r q') input) ∧
    (∀ q, (rule.asking .optional q).Accepts input ↔
      (rule.asking .required q).Accepts input ∨ p.kind = .absent) ∧
    (∀ r, (rule.asking r .filled).Accepts input → (rule.asking r .value).Accepts input) ∧
    (∀ r, (rule.asking r .value).Accepts input → (rule.asking r .maybe).Accepts input) ∧
    ∀ q, (rule.asking .required q).Accepts input → (rule.asking .optional q).Accepts input := by
  intro p
  have hp : input.classify rule.key rule.emptyText = p := rfl
  have hfilled (r : Requiredness) : (rule.asking r .filled).Accepts input ↔
      (rule.asking r .value).Accepts input ∧ p.kind ≠ .null ∧ p.kind ≠ .blank := by
    rw [Rule.accepts_asking_iff hp, Rule.accepts_asking_iff hp]
    cases hk : p.kind <;> simp
  have hmaybe (r : Requiredness) : (rule.asking r .maybe).Accepts input ↔
      (rule.asking r .value).Accepts input ∨ p.kind = .null := by
    rw [Rule.accepts_asking_iff hp, Rule.accepts_asking_iff hp]
    cases hk : p.kind <;> simp
  have hoptional (q : Quantifier) : (rule.asking .optional q).Accepts input ↔
      (rule.asking .required q).Accepts input ∨ p.kind = .absent := by
    rw [Rule.accepts_asking_iff hp, Rule.accepts_asking_iff hp]
    cases hk : p.kind <;> simp
  refine ⟨hfilled, hmaybe, fun habsent => ?_, hoptional, fun r h => ((hfilled r).mp h).1,
    fun r h => (hmaybe r).mpr (.inl h), fun q h => (hoptional q).mpr (.inl h)⟩
  exact Rule.evaluate_asking_absent (Presence.kind_classify_absent_iff.mp habsent)

theorem acceptance_ordered_null :
    let rule : Rule := ⟨"note", .required, .value, none, [⟨"nil?", [], [], Predicate.isKind .null⟩]⟩
    let null := Input.ofEntries [("note", .null)]
    (rule.asking .required .value).Accepts null ∧ ¬ (rule.asking .required .filled).Accepts null ∧
      (rule.asking .required .maybe).Accepts null ∧
      (Input.empty.classify rule.key rule.emptyText).kind = .absent ∧
      (Pipeline.standard.evaluate (rule.asking .required .maybe) Input.empty).map FailedCheck.check
        = [.keyPresence, .predicate "nil?"] ∧
      Pipeline.standard.evaluate (rule.asking .required .filled) Input.empty
        = Pipeline.standard.evaluate (rule.asking .required .maybe) Input.empty := by
  intro rule null
  have hvalue : (rule.asking .required .value).Accepts null := rfl
  obtain ⟨hfilled, hmaybe, _⟩ := acceptance_ordered rule null
  obtain ⟨_, _, habsent, _⟩ := acceptance_ordered rule Input.empty
  have hnotfilled : ¬ (rule.asking .required .filled).Accepts null := fun h =>
    ((hfilled .required).mp h).2.1 rfl
  exact ⟨hvalue, hnotfilled, (hmaybe .required).mpr (.inl hvalue), rfl, rfl,
    habsent rfl .required .filled .maybe⟩

end Conform
