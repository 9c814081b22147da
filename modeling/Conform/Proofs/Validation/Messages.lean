import Conform.Proofs.Compile.Validity
import Conform.Proofs.Evaluation.Standard
import Conform.Validation

/-! The messages of a compiled schema. Every check that an evaluation can fail is one for which
compilation demanded a template, so no failure is left with a mere description. -/

namespace Conform

open Compile

variable {config : Config} {d : KeyDeclaration} {rule : Rule} {input : Input} {c : FailedCheck}

inductive Carries (config : Config) (d : KeyDeclaration) (subject : Option Value) :
    Check → List Argument → Prop
  | keyPresence : d.requiredness = .required → Carries config d subject .keyPresence []
  | quantifier : d.quantifier = .filled → Carries config d subject .quantifier []
  | type {name} : d.type = some name → Carries config d subject (.type name) []
  | predicate {q p args} : q ∈ d.predicates → config.predicates.get? q.name = some p →
      p.check subject q.args = false →
      args.map Argument.name = p.parameters.map Parameter.name →
      args.map Argument.value = q.args → Carries config d subject (.predicate q.name) args

lemma map_name_namedArgs {r : PredicateRule} (h : r.args.length = r.parameters.length) :
    r.namedArgs.map Argument.name = r.parameters.map Parameter.name := by
  have hf : (r.parameters.zip r.args).map Prod.fst = r.parameters :=
    List.map_fst_zip (Nat.le_of_eq h.symm)
  conv_rhs => rw [← hf]
  simp [PredicateRule.namedArgs]

lemma map_value_namedArgs {r : PredicateRule} (h : r.args.length = r.parameters.length) :
    r.namedArgs.map Argument.value = r.args := by
  have hs : (r.parameters.zip r.args).map Prod.snd = r.args := List.map_snd_zip (Nat.le_of_eq h)
  conv_rhs => rw [← hs]
  simp [PredicateRule.namedArgs, Function.comp_def]

lemma check_mem_possibleChecks (h : c ∈ Pipeline.standard.evaluate rule input) :
    c.check ∈ possibleChecks rule := by
  rcases Pipeline.mem_evaluate h with ⟨rfl, hr⟩ | ⟨rfl, hq⟩ | ⟨t, ht, rfl⟩ | ⟨q, hq, _, rfl⟩
  · simp [possibleChecks, hr, FailedCheck.bare]
  · simp [possibleChecks, hq, FailedCheck.bare]
  · simp [possibleChecks, Rule.typeName, ht, FailedCheck.bare]
  · exact List.mem_append_right _ (List.mem_map_of_mem (List.mem_map_of_mem hq))

lemma Compile.Compilable.has_template (hd : Compilable config d)
    (hc : c ∈ Pipeline.standard.evaluate (ruleOf config d) input) :
    config.templates.has c.check = true := by
  have hmem := check_mem_possibleChecks hc
  rw [hd.realizes.possibleChecks] at hmem
  exact hd.templates _ hmem

lemma Compile.Realizes.carries (h : Realizes config d rule)
    (hc : c ∈ Pipeline.standard.evaluate rule input) :
    Carries config d (rule.subject input) c.check c.args := by
  rcases Pipeline.mem_evaluate hc with ⟨rfl, hr⟩ | ⟨rfl, hq⟩ | ⟨t, ht, rfl⟩ | ⟨r, hr, hrej, rfl⟩
  · exact .keyPresence (h.requiredness ▸ hr)
  · exact .quantifier (h.quantifier ▸ hq)
  · exact .type (h.typeName ▸ by simp [Rule.typeName, ht])
  · obtain ⟨p, hp, ha, hparams, hcheck⟩ := h.resolved r hr
    have hpair : (r.name, r.args) ∈ (remaining config d).map fun q => (q.name, q.args) :=
      h.predicates ▸ List.mem_map_of_mem hr
    obtain ⟨⟨name, args⟩, hq, heq⟩ := List.mem_map.mp hpair
    obtain ⟨rfl, rfl⟩ : name = r.name ∧ args = r.args := by simpa using heq
    have hl : r.args.length = r.parameters.length := hparams ▸ ha.arity
    refine .predicate (List.mem_of_mem_filter hq) hp ?_ ?_ (map_value_namedArgs hl)
    · simpa [PredicateRule.holds, hcheck] using hrej
    · rw [← hparams]
      exact map_name_namedArgs hl

theorem failures_resolved {declaration : SchemaDeclaration} {config : Config} {schema : Schema}
    (h : Schema.compile declaration config = .ok schema) (input : Input) :
    (schema.validate input).failures
        = schema.rules.flatMap (fun rule => (Pipeline.standard.evaluate rule input).map fun c =>
            ⟨rule.key, c.check, config.templates.resolve c.check c.args⟩) ∧
      ∀ rule ∈ schema.rules, ∀ c ∈ Pipeline.standard.evaluate rule input,
        (∃ template, config.templates.template? c.check = some template ∧
          config.templates.resolve c.check c.args = Template.interpolate template c.args) ∧
        ∃ d ∈ declaration.keys, d.key = rule.key ∧
          Carries config d (rule.subject input) c.check c.args := by
  obtain ⟨hv, rfl⟩ := schema_eq_ok_iff.mp h
  refine ⟨Schema.failures_validate _ input, fun rule hrule c hc => ?_⟩
  obtain ⟨d, hd, rfl⟩ := List.mem_map.mp hrule
  have hcomp := hv.compilable d hd
  obtain ⟨template, ht⟩ := Option.isSome_iff_exists.mp (hcomp.has_template hc)
  refine ⟨⟨template, ht, by simp [TemplateSet.resolve, ht]⟩, d, hd, rfl, ?_⟩
  exact hcomp.realizes.carries hc

theorem failures_resolved_bound :
    let declaration : SchemaDeclaration :=
      ⟨[((KeyDeclaration.required "age").value "integer").predicate "int?"
        |>.check "lt?" (.integer 23)]⟩
    let input := Input.ofEntries [("age", .integer 99)]
    ∃ schema, Schema.compile declaration Config.params = .ok schema ∧
      (schema.validate input).failures
        = [⟨"age", .predicate "lt?", "must be less than 23"⟩] ∧
      ∀ rule ∈ schema.rules, ∀ c ∈ Pipeline.standard.evaluate rule input,
        (∃ template, Config.params.templates.template? c.check = some template ∧
          Config.params.templates.resolve c.check c.args = Template.interpolate template c.args) ∧
        ∃ d ∈ declaration.keys, d.key = rule.key ∧
          Carries Config.params d (rule.subject input) c.check c.args := by
  intro declaration input
  have hmessage : (Schema.compile declaration Config.params).map
      (fun schema => (schema.validate input).failures)
        = .ok [⟨"age", .predicate "lt?", "must be less than 23"⟩] := by decide +kernel
  obtain ⟨schema, h⟩ : ∃ schema, Schema.compile declaration Config.params = .ok schema := ⟨_, rfl⟩
  rw [h] at hmessage
  exact ⟨schema, h, Except.ok.inj hmessage, (failures_resolved h input).2⟩

end Conform
