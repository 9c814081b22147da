import Conform.Proofs.Outcome.Views

/-! What templates decide. They let a declaration compile or not and they give messages their text;
the rules, the failed checks and the verdict are the same under all of them. -/

namespace Conform

open Compile

lemma TemplateSet.template?_merge (s t : TemplateSet) (check : Check) :
    (s.merge t).template? check = (t.template? check).or (s.template? check) := by
  cases check with
  | keyPresence => exact OrderedMap.get?_merge s.checks t.checks "key_presence"
  | quantifier => exact OrderedMap.get?_merge s.checks t.checks "filled"
  | type name => exact OrderedMap.get?_merge s.types t.types name
  | predicate name => exact OrderedMap.get?_merge s.predicates t.predicates name

lemma TemplateSet.has_merge {s : TemplateSet} {check : Check} (h : s.has check = true)
    (t : TemplateSet) : (s.merge t).has check = true := by
  rw [has, template?_merge, Option.isSome_or, Bool.or_eq_true]
  exact .inr h

namespace Outcome

structure SameVerdict (o o' : Outcome) : Prop where
  successful : o.successful = o'.successful
  checks : o.failures.map (fun f => (f.key, f.check)) = o'.failures.map fun f => (f.key, f.check)
  counts : o.messages.mapValues (fun _ messages => messages.length)
    = o'.messages.mapValues fun _ messages => messages.length

variable {o o' : Outcome} {templates templates' : TemplateSet}

lemma length_messagesFor (o : Outcome) (key : String) :
    (o.messagesFor key).length
      = ((o.messages.mapValues fun _ messages => messages.length).get? key).getD 0 := by
  rw [OrderedMap.get?_mapValues, messagesFor]
  cases o.messages.get? key <;> rfl

lemma counts_record (templates : TemplateSet) (o : Outcome) (key : String) (c : FailedCheck)
    (cs : List FailedCheck) :
    (o.record templates key (c :: cs)).messages.mapValues (fun _ messages => messages.length)
      = (o.messages.mapValues fun _ messages => messages.length).insert key
          ((o.messagesFor key).length + (cs.length + 1)) := by
  simp [record, OrderedMap.mapValues_insert]

lemma SameVerdict.record (h : SameVerdict o o') (key : String) (checks : List FailedCheck) :
    SameVerdict (o.record templates key checks) (o'.record templates' key checks) where
  successful := by
    cases checks with
    | nil => exact h.successful
    | cons c cs => rfl
  checks := by
    rw [failures_record, failures_record, List.map_append, List.map_append, h.checks]
    simp [failure]
  counts := by
    cases checks with
    | nil => exact h.counts
    | cons c cs =>
      rw [counts_record, counts_record, length_messagesFor o, length_messagesFor o', h.counts]

lemma sameVerdict_ofRecords (templates templates' : TemplateSet)
    (records : List (String × List FailedCheck)) :
    SameVerdict (ofRecords templates records) (ofRecords templates' records) := by
  induction records using List.reverseRecOn with
  | nil => exact ⟨rfl, rfl, rfl⟩
  | append_singleton records r ih =>
    rw [ofRecords_concat, ofRecords_concat]
    exact ih.record r.1 r.2

end Outcome

lemma Compile.Compilable.withTemplates {config : Config} {d : KeyDeclaration}
    (h : Compilable config d) (templates : TemplateSet) :
    Compilable (config.withTemplates templates) d where
  typeKnown := h.typeKnown
  resolves := h.resolves
  templates check hcheck := TemplateSet.has_merge (h.templates check hcheck) templates

theorem verdict_independent_of_templates (declaration : SchemaDeclaration) (config : Config)
    (schema : Schema) (h : Schema.compile declaration config = .ok schema) :
    (∀ (templates : TemplateSet) (schema' : Schema),
        Schema.compile declaration { config with templates } = .ok schema' →
          schema'.rules = schema.rules ∧
            ∀ input, Outcome.SameVerdict (schema'.validate input) (schema.validate input)) ∧
      ∀ templates : TemplateSet, ∃ schema',
        Schema.compile declaration (config.withTemplates templates) = .ok schema' ∧
          schema'.rules = schema.rules := by
  obtain ⟨hv, rfl⟩ := schema_eq_ok_iff.mp h
  refine ⟨fun templates schema' h' => ?_, fun templates => ?_⟩
  · obtain ⟨_, rfl⟩ := schema_eq_ok_iff.mp h'
    -- a rule is made without a look at the templates
    exact ⟨rfl, fun input => Outcome.sameVerdict_ofRecords _ _ _⟩
  · have hv' : Valid (config.withTemplates templates) declaration.keys :=
      ⟨hv.distinct, fun d hd => (hv.compilable d hd).withTemplates templates⟩
    exact ⟨_, schema_eq_ok_iff.mpr ⟨hv', rfl⟩, rfl⟩

theorem verdict_independent_of_templates_bound :
    let age := ((KeyDeclaration.required "age").value "integer").check "gteq?" (.integer 18)
    let own : TemplateSet :=
      ⟨OrderedMap.empty, OrderedMap.empty, OrderedMap.ofList [("gteq?", "too young")]⟩
    let input := Input.ofEntries [("age", .string "17")]
    ∃ schema schema', Schema.compile ⟨[age]⟩ Config.params = .ok schema ∧
      Schema.compile ⟨[age]⟩ (Config.params.withTemplates own) = .ok schema' ∧
      (schema.validate input).messagesFor "age" = ["must be greater than or equal to 18"] ∧
      (schema'.validate input).messagesFor "age" = ["too young"] ∧
      schema'.rules = schema.rules ∧
      Outcome.SameVerdict (schema'.validate input) (schema.validate input) := by
  intro age own input
  have hmessages : (Schema.compile ⟨[age]⟩ Config.params).map
      (fun schema => (schema.validate input).messagesFor "age")
        = .ok ["must be greater than or equal to 18"] := by decide +kernel
  have hmessages' : (Schema.compile ⟨[age]⟩ (Config.params.withTemplates own)).map
      (fun schema => (schema.validate input).messagesFor "age") = .ok ["too young"] := by
    decide +kernel
  obtain ⟨schema, h⟩ : ∃ schema, Schema.compile ⟨[age]⟩ Config.params = .ok schema := ⟨_, rfl⟩
  obtain ⟨hverdict, hmerge⟩ := verdict_independent_of_templates ⟨[age]⟩ Config.params schema h
  obtain ⟨schema', h', hrules⟩ := hmerge own
  rw [h] at hmessages
  rw [h'] at hmessages'
  exact ⟨schema, schema', h, h', Except.ok.inj hmessages, Except.ok.inj hmessages', hrules,
    (hverdict _ schema' h').2 input⟩

end Conform
