import Conform.Proofs.Evaluation.Standard
import Conform.Proofs.Predicate.Builtin
import Conform.Proofs.Validation.Independence

/-! A required key that is missing. It fails whatever can be asked of it, and each check reports on its
own: the key, its type, and every predicate that is declared beside the type. -/

namespace Conform

open Compile

namespace Compile

def rejection (config : Config) (q : PredicateDeclaration) : FailedCheck where
  check := .predicate q.name
  args := (((config.predicates.get? q.name).elim [] Predicate.parameters).zip q.args).map
    fun (parameter, v) => ⟨parameter.name, v⟩

variable {config : Config} {d : KeyDeclaration} {q : PredicateDeclaration} {r : PredicateRule}

lemma failedPredicate_eq_rejection (h : predicateRule? config q = some r) :
    Stage.failedPredicate r = rejection config q := by
  obtain ⟨p, hp, rfl⟩ := Option.map_eq_some_iff.mp h
  simp [Stage.failedPredicate, PredicateRule.namedArgs, rejection, hp]

lemma map_failedPredicate_eq {qs : List PredicateDeclaration} (h : ∀ q ∈ qs, Resolves config q) :
    (qs.filterMap (predicateRule? config)).map Stage.failedPredicate = qs.map (rejection config) := by
  induction qs with
  | nil => rfl
  | cons q qs ih =>
    obtain ⟨hq, hqs⟩ := List.forall_mem_cons.mp h
    obtain ⟨r, _, hr⟩ := hq.ok ""
    rw [List.filterMap_cons_some hr, List.map_cons, List.map_cons, ih hqs,
      failedPredicate_eq_rejection hr]

end Compile

lemma Rule.predicateFailures_of_rejecting {rule : Rule} {subject : Option Value}
    (h : ∀ q ∈ rule.predicates, q.holds subject = false) :
    rule.predicateFailures subject = rule.predicates.map Stage.failedPredicate := by
  rw [predicateFailures, List.filter_eq_self.mpr fun q hq => by simp [h q hq]]

variable {config : Config} {d : KeyDeclaration} {input : Input}

lemma Compile.rejects_absent (hbuiltin : config.predicates = PredicateRegistry.builtin)
    {r : PredicateRule} (hr : r ∈ (ruleOf config d).predicates) : r.holds none = false := by
  obtain ⟨q, _, hq⟩ := List.mem_filterMap.mp hr
  obtain ⟨p, hp, rfl⟩ := Option.map_eq_some_iff.mp hq
  rw [hbuiltin] at hp
  exact PredicateRegistry.rejectsAbsent_of_get? hp q.args

lemma Compile.evaluate_missing (hbuiltin : config.predicates = PredicateRegistry.builtin)
    (hd : Compilable config d) (hr : d.requiredness = .required) (ha : input.get? d.key = none) :
    Pipeline.standard.evaluate (ruleOf config d) input =
      .bare .keyPresence :: (d.type.map fun name => .bare (.type name)).toList
        ++ (remaining config d).map (rejection config) := by
  have htype : ((ruleOf config d).declaredType.map fun t => FailedCheck.bare (.type t.name))
      = d.type.map fun name => .bare (.type name) := by
    rw [← hd.typeKnown.typeName, Option.map_map]
    rfl
  have hrejecting : (ruleOf config d).predicateFailures none
      = (remaining config d).map (rejection config) := by
    rw [Rule.predicateFailures_of_rejecting fun q hq => rejects_absent hbuiltin hq]
    exact map_failedPredicate_eq (resolves_of_mem_remaining hd.resolves)
  rw [Pipeline.evaluate_absent ha hr, htype, hrejecting]

theorem missing_required_fails_all :
    (∀ p ∈ Predicate.builtins, ∀ args, p.check none args = false) ∧
      ∀ config : Config, config.predicates = PredicateRegistry.builtin →
        ∀ d : KeyDeclaration, d.requiredness = .required →
          ∀ input : Input, input.get? d.key = none →
            let failed : List FailedCheck :=
              ⟨.keyPresence, []⟩ :: (d.type.map fun name => ⟨.type name, []⟩).toList
                ++ (remaining config d).map (rejection config)
            (∀ rule, compileKey config d = .ok rule →
              Pipeline.standard.evaluate rule input = failed) ∧
            ∀ (declaration : SchemaDeclaration) (schema : Schema),
              Schema.compile declaration config = .ok schema → d ∈ declaration.keys →
                (schema.validate input).failuresFor d.key
                  = failed.map (Outcome.failure config.templates d.key) := by
  refine ⟨Predicate.rejectsAbsent_builtins, fun config hbuiltin d hr input ha => ⟨?_, ?_⟩⟩
  · intro rule h
    obtain ⟨hd, rfl⟩ := compileKey_eq_ok_iff.mp h
    exact evaluate_missing hbuiltin hd hr ha
  · intro declaration schema h hmem
    have hd := (schema_eq_ok_iff.mp h).1.compilable d hmem
    rw [Schema.failuresFor_of_mem h input hmem, keyFailures, evaluate_missing hbuiltin hd hr ha]
    rfl

theorem missing_required_fails_all_negated :
    let d := (((((KeyDeclaration.required "age").maybe "integer").predicate "int?").predicate
      "nil?").check "not_eql?" (.integer 1)).check "excluded_from?" (.array [])
    let declaration : SchemaDeclaration := ⟨[KeyDeclaration.optional "name", d]⟩
    ∃ schema, Schema.compile declaration Config.json = .ok schema ∧
      (schema.validate Input.empty).failuresFor "age"
        = [⟨"age", .keyPresence, "is missing"⟩, ⟨"age", .type "integer", "must be an integer"⟩,
          ⟨"age", .predicate "nil?", "cannot be defined"⟩,
          ⟨"age", .predicate "not_eql?", "must not be equal to 1"⟩,
          ⟨"age", .predicate "excluded_from?", "must not be one of: "⟩] := by
  intro d declaration
  obtain ⟨schema, h⟩ : ∃ schema, Schema.compile declaration Config.json = .ok schema := ⟨_, rfl⟩
  have hd : d ∈ declaration.keys := by simp [declaration]
  have hfailures := (missing_required_fails_all.2 Config.json rfl d rfl Input.empty rfl).2
    declaration schema h hd
  refine ⟨schema, h, hfailures.trans ?_⟩
  decide +kernel

end Conform
