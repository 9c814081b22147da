import Conform.Proofs.Evaluation.Standard
import Conform.Proofs.Validation.Independence
import Mathlib.Data.List.Nodup

/-! The empty text in parameters. Under a scalar type it is the only way to leave a value out, and
so nothing tells it from null once the key is classified: not the type, not a predicate, not a
message. -/

namespace Conform

variable {declaration : SchemaDeclaration} {config : Config} {schema : Schema}
  {d : KeyDeclaration}

lemma Input.get?_insert (input : Input) (key name : String) (v : Value) :
    (input.insert key v).get? name = if name = key then some v else input.get? name :=
  OrderedMap.get?_insert input.values key name v

lemma Input.get?_ofEntries_single (key : String) (v : Value) :
    (Input.ofEntries [(key, v)]).get? key = some v :=
  (get?_insert empty key key v).trans (if_pos rfl)

lemma Input.classify_insert_empty_text (input : Input) (key name : String) {e : EmptyText}
    (he : name = key → e = .null) :
    (input.insert key (.string "")).classify name e = (input.insert key .null).classify name e := by
  rw [Input.classify, Input.classify, Input.get?_insert, Input.get?_insert]
  by_cases hn : name = key
  · rw [if_pos hn, if_pos hn, he hn]
    rfl
  · rw [if_neg hn, if_neg hn]

lemma TypeRegistry.emptyText_of_scalar {name : String} {t : DeclaredType}
    (hname : name ∈ ["integer", "float", "decimal", "bool"]) (ht : params.get? name = some t) :
    t.emptyText = .null := by
  have hall : ∀ name ∈ ["integer", "float", "decimal", "bool"],
      (params.get? name).map DeclaredType.emptyText = some .null := by decide
  simpa [ht] using hall name hname

lemma Compile.emptyText_ruleOf (htypes : config.types = TypeRegistry.params)
    (hd : Compile.Compilable config d) {name : String}
    (hname : name ∈ ["integer", "float", "decimal", "bool"]) (htype : d.type = some name) :
    (Compile.ruleOf config d).emptyText = .null := by
  obtain ⟨t, ht⟩ := hd.typeKnown name htype
  have hdeclared : (Compile.ruleOf config d).declaredType = some t := by
    rw [← ht, Compile.ruleOf, Compile.declaredType, htype, Option.bind_some]
  rw [htypes] at ht
  rw [Rule.emptyText, hdeclared]
  exact TypeRegistry.emptyText_of_scalar hname ht

lemma keyFailures_null_of_maybe (hq : d.quantifier = .maybe) (input : Input) :
    keyFailures config (input.insert d.key .null) d = [] := by
  have hnull : (input.insert d.key .null).classify d.key (Compile.ruleOf config d).emptyText
      = .null := by
    rw [Input.classify, Input.get?_insert, if_pos rfl]
    rfl
  have hexcused : (Compile.ruleOf config d).Excused
      ((input.insert d.key .null).classify d.key (Compile.ruleOf config d).emptyText) := by
    rw [hnull]
    exact .inr ⟨rfl, hq⟩
  rw [keyFailures, Pipeline.evaluate_excused hexcused, List.map_nil]

theorem empty_text_as_null (htypes : config.types = TypeRegistry.params)
    (h : Schema.compile declaration config = .ok schema) (hd : d ∈ declaration.keys)
    {name : String} (hname : name ∈ ["integer", "float", "decimal", "bool"])
    (htype : d.type = some name) (input : Input) :
    schema.validate (input.insert d.key (.string "")) = schema.validate (input.insert d.key .null) ∧
      (d.quantifier = .maybe →
        (schema.validate (input.insert d.key (.string ""))).failuresFor d.key = [] ∧
          (schema.validate (input.insert d.key .null)).failuresFor d.key = []) := by
  have hv := (Compile.schema_eq_ok_iff.mp h).1
  have hsame : schema.validate (input.insert d.key (.string ""))
      = schema.validate (input.insert d.key .null) := by
    apply Schema.validate_congr_classify
    intro rule hrule
    apply Input.classify_insert_empty_text
    intro hkey
    obtain ⟨_, rfl⟩ := Compile.schema_eq_ok_iff.mp h
    obtain ⟨d', hd', rfl⟩ := List.mem_map.mp hrule
    -- keys are distinct, so the rule of this key is the rule of this declaration
    obtain rfl : d' = d := List.inj_on_of_nodup_map hv.distinct hd' hd hkey
    exact Compile.emptyText_ruleOf htypes (hv.compilable d' hd') hname htype
  refine ⟨hsame, fun hq => ?_⟩
  have hnull : (schema.validate (input.insert d.key .null)).failuresFor d.key = [] := by
    rw [Schema.failuresFor_of_mem h _ hd, keyFailures_null_of_maybe hq]
  exact ⟨hsame ▸ hnull, hnull⟩

theorem empty_text_as_null_beside :
    let textual : Predicate := ⟨"text?", .logic, [], "Value is text", Predicate.isKind .string⟩
    let config := (Config.params.withPredicate textual).withTemplates
      ⟨OrderedMap.empty, OrderedMap.empty, OrderedMap.ofList [("text?", "must be text")]⟩
    let age := ((KeyDeclaration.optional "age").value "integer").predicate "text?"
    let size := (KeyDeclaration.required "size").maybe "float"
    let input := Input.ofEntries [("size", .string "big")]
    ∃ schema, Schema.compile ⟨[age, size]⟩ config = .ok schema ∧
      (schema.validate (input.insert "age" (.string ""))).failures
        = [⟨"age", .type "integer", "must be an integer"⟩,
          ⟨"age", .predicate "text?", "must be text"⟩, ⟨"size", .type "float", "must be a float"⟩] ∧
      schema.validate (input.insert "age" (.string "")) = schema.validate (input.insert "age" .null) ∧
      (schema.validate (input.insert "size" (.string ""))).failuresFor "size" = [] := by
  intro textual config age size input
  have hfailures : (Schema.compile ⟨[age, size]⟩ config).map
      (fun schema => (schema.validate (input.insert "age" (.string ""))).failures)
        = .ok [⟨"age", .type "integer", "must be an integer"⟩,
            ⟨"age", .predicate "text?", "must be text"⟩,
            ⟨"size", .type "float", "must be a float"⟩] := by decide +kernel
  obtain ⟨schema, h⟩ : ∃ schema, Schema.compile ⟨[age, size]⟩ config = .ok schema := ⟨_, rfl⟩
  rw [h] at hfailures
  have htypes : config.types = TypeRegistry.params := rfl
  have hinteger : "integer" ∈ ["integer", "float", "decimal", "bool"] := by decide
  have hfloat : "float" ∈ ["integer", "float", "decimal", "bool"] := by decide
  have hage := empty_text_as_null htypes h (List.mem_cons_self : age ∈ [age, size]) hinteger rfl input
  have hsize := empty_text_as_null htypes h (by simp : size ∈ [age, size]) hfloat rfl input
  exact ⟨schema, h, Except.ok.inj hfailures, hage.1, (hsize.2 rfl).1⟩

end Conform
