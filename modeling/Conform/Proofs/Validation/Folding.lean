import Conform.Proofs.DeclaredType.Builtin
import Conform.Proofs.Validation.Acceptance

/-! Leaving out the predicates that a declared type stands for. Such a predicate sees the value that
the type has read, or else the type or the quantifier is reported already; so it has nothing to add
but a second report on the same fault. -/

namespace Conform

open Compile

def TypePredicatesHold (types : TypeRegistry) (predicates : PredicateRegistry) : Prop :=
  ∀ (name : String) (t : DeclaredType) (v w : Value) (p : Predicate) (args : List Value),
    types.get? name = some t → t.parse v = some w → predicates.get? t.typePredicate = some p →
      p.check (some w) args = true

namespace Rule

def unfolded (config : Config) (d : KeyDeclaration) (rule : Rule) : Rule :=
  { rule with predicates :=
      d.predicates.filterMap fun q => (resolvePredicate config d.key q).toOption }

def isTypePredicate (rule : Rule) (check : Check) : Bool :=
  rule.declaredType.any fun t => check == .predicate t.typePredicate

def isAboutType (rule : Rule) (check : Check) : Bool :=
  rule.declaredType.any fun t => check == .type t.name || check == .predicate t.typePredicate

end Rule

def Schema.unfolded (config : Config) (declaration : SchemaDeclaration) (schema : Schema) : Schema :=
  { schema with rules := List.zipWith (Rule.unfolded config) declaration.keys schema.rules }

variable {config : Config} {d : KeyDeclaration} {rule : Rule} {p : Presence} {input : Input}

lemma typePredicatesHold_builtin (style : InputStyle) :
    TypePredicatesHold (TypeRegistry.forStyle style) PredicateRegistry.builtin := by
  intro name t v w p args ht hw hp
  obtain ⟨kind, hkind⟩ := TypeRegistry.exists_ofKind_of_get? ht
  rw [hkind.asks p hp]
  simp [Predicate.isKind, hkind.reads v w hw]

namespace Rule

lemma forall₂_resolved {key : String} {qs : List PredicateDeclaration}
    (h : ∀ q ∈ qs, Resolves config q) :
    List.Forall₂ (fun q r => resolvePredicate config key q = .ok r) qs
      (qs.filterMap fun q => (resolvePredicate config key q).toOption) := by
  induction qs with
  | nil => exact .nil
  | cons q qs ih =>
    obtain ⟨hq, hqs⟩ := List.forall_mem_cons.mp h
    obtain ⟨r, hr, _⟩ := hq.ok key
    rw [List.filterMap_cons_some (b := r) (by rw [hr]; rfl)]
    exact .cons hr (ih hqs)

lemma predicates_unfolded (h : compileKey config d = .ok rule) :
    (rule.unfolded config d).predicates = d.predicates.filterMap (predicateRule? config) := by
  have hresolves := (compileKey_eq_ok_iff.mp h).1.resolves
  refine List.filterMap_congr fun q hq => ?_
  obtain ⟨r, hr, hrule⟩ := (hresolves q hq).ok d.key
  rw [hr, hrule]
  rfl

lemma filterMap_filter_keeps (type : Option DeclaredType) (qs : List PredicateDeclaration) :
    (qs.filter (keeps type)).filterMap (predicateRule? config)
      = (qs.filterMap (predicateRule? config)).filter fun r => !folds type r := by
  induction qs with
  | nil => rfl
  | cons q qs ih =>
    cases hr : predicateRule? config q with
    | none => cases hk : keeps type q <;> simp [hr, hk, ih]
    | some r => cases hk : keeps type q <;> simp [hr, hk, ih, folds_eq_not_keeps type hr]

lemma predicates_eq_filter (h : compileKey config d = .ok rule) :
    rule.predicates
      = (rule.unfolded config d).predicates.filter fun r => !folds rule.declaredType r := by
  rw [predicates_unfolded h]
  obtain ⟨_, rfl⟩ := compileKey_eq_ok_iff.mp h
  exact filterMap_filter_keeps (Compile.declaredType config d) d.predicates

lemma isTypePredicate_failedPredicate (rule : Rule) (r : PredicateRule) :
    rule.isTypePredicate (Stage.failedPredicate r).check = folds rule.declaredType r := by
  cases ht : rule.declaredType <;>
    simp [isTypePredicate, folds, ht, Stage.failedPredicate, Bool.beq_eq_decide_eq]

lemma isTypePredicate_of_not_predicate {check : Check} (h : ∀ name, check ≠ .predicate name) :
    rule.isTypePredicate check = false := by
  cases ht : rule.declaredType <;> simp [isTypePredicate, ht, h]

lemma predicateFailures_eq_filter (h : compileKey config d = .ok rule) (subject : Option Value) :
    rule.predicateFailures subject
      = ((rule.unfolded config d).predicateFailures subject).filter
          fun c => !rule.isTypePredicate c.check := by
  rw [predicateFailures, predicates_eq_filter h, predicateFailures, List.filter_map,
    List.filter_comm]
  simp only [Function.comp_def, isTypePredicate_failedPredicate]

def outerFailures (rule : Rule) (p : Presence) : List FailedCheck :=
  presenceFailures p ++ rule.quantifierFailures p ++ rule.typeFailures p

lemma not_predicate_of_mem_outerFailures {c : FailedCheck} (h : c ∈ rule.outerFailures p)
    (name : String) : c.check ≠ .predicate name := by
  simp only [outerFailures, List.mem_append] at h
  rcases h with (hp | hq) | ht
  · obtain ⟨rfl, _⟩ := mem_presenceFailures.mp hp
    exact nofun
  · obtain ⟨rfl, _⟩ := mem_quantifierFailures.mp hq
    exact nofun
  · obtain ⟨t, _, _, _, rfl⟩ := mem_typeFailures.mp ht
    exact nofun

lemma filter_outerFailures (rule : Rule) (p : Presence) :
    (rule.outerFailures p).filter (fun c => !rule.isTypePredicate c.check) = rule.outerFailures p := by
  rw [List.filter_eq_self]
  intro c hc
  rw [isTypePredicate_of_not_predicate (not_predicate_of_mem_outerFailures hc), Bool.not_false]

lemma evaluate_eq_filter (h : compileKey config d = .ok rule) (input : Input) :
    Pipeline.standard.evaluate rule input
      = (Pipeline.standard.evaluate (rule.unfolded config d) input).filter
          fun c => !rule.isTypePredicate c.check := by
  let p := input.classify rule.key rule.emptyText
  -- only the predicates differ: presence, subject and the outer failures are the same terms
  have hall : Pipeline.standard.evaluate (rule.unfolded config d) input
      = if rule.Excused p then [] else
          rule.outerFailures p ++ (rule.unfolded config d).predicateFailures (rule.forwarded p) :=
    Pipeline.evaluate_standard (rule.unfolded config d) input
  have hkept : Pipeline.standard.evaluate rule input
      = if rule.Excused p then [] else
          rule.outerFailures p ++ rule.predicateFailures (rule.forwarded p) :=
    Pipeline.evaluate_standard rule input
  rw [hall, hkept]
  by_cases hex : rule.Excused p
  · rw [if_pos hex, if_pos hex, List.filter_nil]
  · rw [if_neg hex, if_neg hex, List.filter_append, filter_outerFailures,
      predicateFailures_eq_filter h]

lemma exists_of_folds {r : PredicateRule} (h : folds rule.declaredType r = true) :
    ∃ t, rule.declaredType = some t ∧ r.name = t.typePredicate := by
  cases ht : rule.declaredType with
  | none => simp [folds, ht] at h
  | some t => exact ⟨t, rfl, by simpa [folds, ht] using h⟩

lemma holds_of_folds (hs : TypePredicatesHold config.types config.predicates)
    (h : compileKey config d = .ok rule) {r : PredicateRule}
    (hr : r ∈ (rule.unfolded config d).predicates) {t : DeclaredType} (ht : rule.declaredType = some t)
    (hn : r.name = t.typePredicate) {v w : Value} (hw : t.parse v = some w) :
    r.holds (some w) = true := by
  rw [predicates_unfolded h] at hr
  obtain ⟨_, rfl⟩ := compileKey_eq_ok_iff.mp h
  obtain ⟨name, _, hname⟩ := Option.bind_eq_some_iff.mp ht
  obtain ⟨q, _, hq⟩ := List.mem_filterMap.mp hr
  obtain ⟨p, hp, rfl⟩ := Option.map_eq_some_iff.mp hq
  have hp' : config.predicates.get? t.typePredicate = some p := hn ▸ hp
  exact hs name t v w p q.args hname hw hp'

lemma Satisfied.unfolded (hs : TypePredicatesHold config.types config.predicates)
    (h : compileKey config d = .ok rule) (hp : rule.Satisfied p) :
    (rule.unfolded config d).Satisfied p where
  there := hp.there
  filled := hp.filled
  coerced := hp.coerced
  holds r hr := by
    change r.holds (rule.forwarded p) = true
    -- a predicate that was kept holds already; one that was left out sees what its type has read
    cases hf : folds rule.declaredType r with
    | false =>
      have hkept : r ∈ rule.predicates := by
        rw [predicates_eq_filter h, List.mem_filter, hf]
        exact ⟨hr, rfl⟩
      exact hp.holds r hkept
    | true =>
      obtain ⟨t, ht, hn⟩ := exists_of_folds hf
      obtain ⟨v, w, _, hw, hforwarded⟩ := hp.exists_forwarded ht
      rw [hforwarded]
      exact holds_of_folds hs h hr ht hn hw

lemma evaluate_unfolded_eq_nil_iff (hs : TypePredicatesHold config.types config.predicates)
    (h : compileKey config d = .ok rule) (input : Input) :
    Pipeline.standard.evaluate (rule.unfolded config d) input = [] ↔
      Pipeline.standard.evaluate rule input = [] := by
  constructor
  · intro hnil
    rw [evaluate_eq_filter h, hnil, List.filter_nil]
  · rw [Pipeline.evaluate_eq_nil_iff, Pipeline.evaluate_eq_nil_iff]
    exact Or.imp id (Satisfied.unfolded hs h)

lemma filter_isAboutType_predicateFailures (h : compileKey config d = .ok rule)
    (subject : Option Value) :
    (rule.predicateFailures subject).filter (fun c => rule.isAboutType c.check) = [] := by
  rw [List.filter_eq_nil_iff]
  intro c hc
  obtain ⟨r, hr, _, rfl⟩ := mem_predicateFailures.mp hc
  rw [predicates_eq_filter h, List.mem_filter] at hr
  cases ht : rule.declaredType with
  | none => simp [isAboutType, ht]
  | some t => simpa [isAboutType, folds, ht, Stage.failedPredicate] using hr.2

lemma length_typeFailures_le (rule : Rule) (p : Presence) : (rule.typeFailures p).length ≤ 1 := by
  cases ht : rule.declaredType with
  | none => simp [typeFailures, ht]
  | some t =>
    rw [typeFailures, ht]
    simp only
    split <;> simp

lemma isAboutType_of_guard {check : Check} (h : check = .keyPresence ∨ check = .quantifier) :
    rule.isAboutType check = false := by
  cases ht : rule.declaredType with
  | none => simp [isAboutType, ht]
  | some t => rcases h with rfl | rfl <;> simp [isAboutType, ht]

lemma length_isAboutType_outerFailures_le (rule : Rule) (p : Presence) :
    ((rule.outerFailures p).filter fun c => rule.isAboutType c.check).length ≤ 1 := by
  have hguards : (presenceFailures p ++ rule.quantifierFailures p).filter
      (fun c => rule.isAboutType c.check) = [] := by
    rw [List.filter_eq_nil_iff]
    intro c hc
    rcases List.mem_append.mp hc with hp | hq
    · obtain ⟨rfl, _⟩ := mem_presenceFailures.mp hp
      simp [isAboutType_of_guard, FailedCheck.bare]
    · obtain ⟨rfl, _⟩ := mem_quantifierFailures.mp hq
      simp [isAboutType_of_guard, FailedCheck.bare]
  rw [outerFailures, List.filter_append, hguards, List.nil_append]
  exact Nat.le_trans (List.length_filter_le _ _) (length_typeFailures_le rule p)

lemma length_isAboutType_le (h : compileKey config d = .ok rule) (input : Input) :
    ((Pipeline.standard.evaluate rule input).filter fun c => rule.isAboutType c.check).length ≤ 1 := by
  rw [Pipeline.evaluate_standard]
  split
  · simp
  · rw [List.filter_append, filter_isAboutType_predicateFailures h, List.append_nil]
    exact length_isAboutType_outerFailures_le rule _

end Rule

/-- Folding neither hides a fault nor adds one: the failures of a key are those that all its
predicates would give, less the reports of its type predicate, and there are none of the one just
when there are none of the other. The types and predicates that come with the library are of this
kind. -/
theorem folding_sound :
    (∀ style, TypePredicatesHold (TypeRegistry.forStyle style) PredicateRegistry.builtin) ∧
      ∀ config : Config, TypePredicatesHold config.types config.predicates →
        (∀ (d : KeyDeclaration) (rule : Rule), compileKey config d = .ok rule →
          List.Forall₂ (fun q r => resolvePredicate config d.key q = .ok r) d.predicates
              (rule.unfolded config d).predicates ∧
            ∀ input : Input,
              Pipeline.standard.evaluate rule input
                = (Pipeline.standard.evaluate (rule.unfolded config d) input).filter
                    (fun c => !rule.isTypePredicate c.check) ∧
              (Pipeline.standard.evaluate (rule.unfolded config d) input = [] ↔
                Pipeline.standard.evaluate rule input = []) ∧
              ((Pipeline.standard.evaluate rule input).filter
                fun c => rule.isAboutType c.check).length ≤ 1) ∧
        ∀ (declaration : SchemaDeclaration) (schema : Schema),
          Schema.compile declaration config = .ok schema → ∀ input : Input,
            ((schema.unfolded config declaration).validate input).successful
              = (schema.validate input).successful := by
  refine ⟨typePredicatesHold_builtin, fun config hs => ⟨fun d rule h => ?_, ?_⟩⟩
  · exact ⟨Rule.forall₂_resolved (compileKey_eq_ok_iff.mp h).1.resolves, fun input =>
      ⟨Rule.evaluate_eq_filter h input, Rule.evaluate_unfolded_eq_nil_iff hs h input,
        Rule.length_isAboutType_le h input⟩⟩
  · intro declaration schema h input
    obtain ⟨hv, rfl⟩ := schema_eq_ok_iff.mp h
    rw [Bool.eq_iff_iff, Schema.successful_iff, Schema.successful_iff]
    simp only [Schema.unfolded, List.zipWith_map_right, List.zipWith_self, List.forall_mem_map]
    refine forall₂_congr fun d hd => ?_
    exact Rule.evaluate_unfolded_eq_nil_iff hs
      (compileKey_eq_ok_iff.mpr ⟨hv.compilable d hd, rfl⟩) input

theorem folding_sound_no_integer :
    let d := (((KeyDeclaration.required "age").value "integer").predicate "int?").check "lt?"
      (.integer 23)
    let input := Input.ofEntries [("age", .string "many")]
    ∃ rule, compileKey Config.params d = .ok rule ∧
      (Pipeline.standard.evaluate (rule.unfolded Config.params d) input).map FailedCheck.check
        = [.type "integer", .predicate "int?", .predicate "lt?"] ∧
      (Pipeline.standard.evaluate rule input).map FailedCheck.check
        = [.type "integer", .predicate "lt?"] ∧
      Pipeline.standard.evaluate rule input
        = (Pipeline.standard.evaluate (rule.unfolded Config.params d) input).filter
            fun c => !rule.isTypePredicate c.check := by
  intro d input
  have hchecks : (compileKey Config.params d).map (fun rule =>
      ((Pipeline.standard.evaluate (rule.unfolded Config.params d) input).map FailedCheck.check,
        (Pipeline.standard.evaluate rule input).map FailedCheck.check))
      = .ok ([.type "integer", .predicate "int?", .predicate "lt?"],
          [.type "integer", .predicate "lt?"]) := by decide +kernel
  obtain ⟨rule, h⟩ : ∃ rule, compileKey Config.params d = .ok rule := ⟨_, rfl⟩
  rw [h] at hchecks
  obtain ⟨hall, hkept⟩ := Prod.mk.inj (Except.ok.inj hchecks)
  have hs : TypePredicatesHold Config.params.types Config.params.predicates := folding_sound.1 .params
  exact ⟨rule, h, hall, hkept, (((folding_sound.2 Config.params hs).1 d rule h).2 input).1⟩

end Conform
