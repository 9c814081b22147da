import Conform.Proofs.Outcome.Views

/-! Keys do not see one another. What a key contributes to an outcome is a function of its own
declaration and of its own entry in the input; an outcome is these contributions one behind the
other. -/

namespace Conform

def Input.only (input : Input) (key : String) : Input :=
  match input.get? key with
  | some v => Input.empty.insert key v
  | none => Input.empty

def keyFailures (config : Config) (input : Input) (d : KeyDeclaration) : List Failure :=
  (Pipeline.standard.evaluate (Compile.ruleOf config d) input).map
    (Outcome.failure config.templates d.key)

variable {declaration : SchemaDeclaration} {config : Config} {schema : Schema}
  {input input' : Input} {d : KeyDeclaration} {key : String}

lemma Input.get?_only (input : Input) (key : String) :
    (input.only key).get? key = input.get? key := by
  cases h : input.get? key with
  | none => simp only [Input.only, h]; rfl
  | some v =>
    simp only [Input.only, h]
    exact (OrderedMap.get?_insert OrderedMap.empty key key v).trans (if_pos rfl)

lemma Pipeline.evaluate_congr_classify (pipeline : Pipeline) {rule : Rule}
    (h : input.classify rule.key rule.emptyText = input'.classify rule.key rule.emptyText) :
    pipeline.evaluate rule input = pipeline.evaluate rule input' := by
  rw [Pipeline.evaluate, Pipeline.evaluate, Evaluation.start, Evaluation.start, h]

lemma Pipeline.evaluate_congr (pipeline : Pipeline) {rule : Rule}
    (h : input.get? rule.key = input'.get? rule.key) :
    pipeline.evaluate rule input = pipeline.evaluate rule input' := by
  apply pipeline.evaluate_congr_classify
  rw [Input.classify, Input.classify, h]

lemma keyFailures_congr (h : input.get? d.key = input'.get? d.key) :
    keyFailures config input d = keyFailures config input' d := by
  have hrule : input.get? (Compile.ruleOf config d).key = input'.get? (Compile.ruleOf config d).key := h
  rw [keyFailures, keyFailures, Pipeline.evaluate_congr _ hrule]

lemma key_of_mem_keyFailures {f : Failure} (h : f ∈ keyFailures config input d) : f.key = d.key := by
  obtain ⟨c, _, rfl⟩ := List.mem_map.mp h
  rfl

lemma filter_keyFailures (config : Config) (input : Input) (d : KeyDeclaration) (key : String) :
    (keyFailures config input d).filter (fun f => f.key = key)
      = if d.key = key then keyFailures config input d else [] := by
  by_cases h : d.key = key
  · rw [if_pos h, List.filter_eq_self]
    exact fun f hf => by simpa [key_of_mem_keyFailures hf] using h
  · rw [if_neg h, List.filter_eq_nil_iff]
    exact fun f hf => by simpa [key_of_mem_keyFailures hf] using h

lemma Schema.failures_eq_flatMap (h : Schema.compile declaration config = .ok schema)
    (input : Input) :
    (schema.validate input).failures = declaration.keys.flatMap (keyFailures config input) := by
  obtain ⟨_, rfl⟩ := Compile.schema_eq_ok_iff.mp h
  rw [Schema.failures_validate, List.flatMap_map]
  rfl

lemma Schema.failuresFor_eq_flatMap (h : Schema.compile declaration config = .ok schema)
    (input : Input) (key : String) :
    (schema.validate input).failuresFor key
      = declaration.keys.flatMap fun d => if d.key = key then keyFailures config input d else [] := by
  rw [Outcome.failuresFor, Schema.failures_eq_flatMap h, List.filter_flatMap]
  simp only [filter_keyFailures]

lemma flatMap_ite_key {α : Type} {ds : List KeyDeclaration}
    (hn : (ds.map KeyDeclaration.key).Nodup) (hd : d ∈ ds) (f : KeyDeclaration → List α) :
    (ds.flatMap fun d' => if d'.key = d.key then f d' else []) = f d := by
  induction ds with
  | nil => cases hd
  | cons e es ih =>
    obtain ⟨he, hes⟩ := List.nodup_cons.mp hn
    rw [List.flatMap_cons]
    rcases List.mem_cons.mp hd with rfl | hd
    · have hrest : (es.flatMap fun d' => if d'.key = d.key then f d' else []) = [] :=
        List.flatMap_eq_nil_iff.mpr fun d' hd' =>
          if_neg fun hk : d'.key = d.key => he (hk ▸ List.mem_map_of_mem hd')
      rw [if_pos rfl, hrest, List.append_nil]
    · have hk : ¬ e.key = d.key := fun hk => he (hk ▸ List.mem_map_of_mem hd)
      rw [if_neg hk, List.nil_append, ih hes hd]

lemma Schema.failuresFor_of_mem (h : Schema.compile declaration config = .ok schema)
    (input : Input) (hd : d ∈ declaration.keys) :
    (schema.validate input).failuresFor d.key = keyFailures config input d := by
  rw [Schema.failuresFor_eq_flatMap h]
  exact flatMap_ite_key (Compile.schema_eq_ok_iff.mp h).1.distinct hd (keyFailures config input)

lemma Schema.failuresFor_of_not_mem (h : Schema.compile declaration config = .ok schema)
    (input : Input) (hk : key ∉ declaration.keys.map KeyDeclaration.key) :
    (schema.validate input).failuresFor key = [] := by
  rw [Schema.failuresFor_eq_flatMap h, List.flatMap_eq_nil_iff]
  intro d hd
  exact if_neg fun he : d.key = key => hk (he ▸ List.mem_map_of_mem hd)

lemma Schema.messagesFor_validate (schema : Schema) (input : Input) (key : String) :
    (schema.validate input).messagesFor key
      = ((schema.validate input).failuresFor key).map Failure.message :=
  (Outcome.coherent_ofRecords schema.templates _).messagesFor key

lemma Schema.messagesFor_of_mem (h : Schema.compile declaration config = .ok schema)
    (input : Input) (hd : d ∈ declaration.keys) :
    (schema.validate input).messagesFor d.key
      = (Pipeline.standard.evaluate (Compile.ruleOf config d) input).map
          fun c => config.templates.resolve c.check c.args := by
  rw [Schema.messagesFor_validate, Schema.failuresFor_of_mem h input hd, keyFailures, List.map_map]
  rfl

lemma Schema.messagesFor_eq {schema' : Schema}
    (h : (schema'.validate input').failuresFor key = (schema.validate input).failuresFor key) :
    (schema'.validate input').messagesFor key = (schema.validate input).messagesFor key := by
  rw [Schema.messagesFor_validate, Schema.messagesFor_validate, h]

lemma Schema.validate_congr_classify
    (h : ∀ rule ∈ schema.rules,
      input.classify rule.key rule.emptyText = input'.classify rule.key rule.emptyText) :
    schema.validate input = schema.validate input' := by
  have hrecords : ∀ rule ∈ schema.rules, (rule.key, Pipeline.standard.evaluate rule input)
      = (rule.key, Pipeline.standard.evaluate rule input') := by
    intro rule hrule
    rw [Pipeline.evaluate_congr_classify _ (h rule hrule)]
  rw [Schema.validate, Schema.validate, List.map_congr_left hrecords]

lemma Schema.validate_congr (h : Schema.compile declaration config = .ok schema)
    (hd : ∀ d ∈ declaration.keys, input.get? d.key = input'.get? d.key) :
    schema.validate input = schema.validate input' := by
  obtain ⟨_, rfl⟩ := Compile.schema_eq_ok_iff.mp h
  apply Schema.validate_congr_classify
  intro rule hrule
  obtain ⟨d, hmem, rfl⟩ := List.mem_map.mp hrule
  rw [Input.classify, Input.classify, Compile.ruleOf, hd d hmem]

lemma Compile.Compilable.compile_alone (hd : Compile.Compilable config d) :
    ∃ alone, Schema.compile ⟨[d]⟩ config = .ok alone := by
  have hv : Compile.Valid config [d] := ⟨by simp, by simpa using hd⟩
  exact ⟨_, Compile.schema_eq_ok_iff.mpr ⟨hv, rfl⟩⟩

lemma Schema.failures_alone {alone : Schema} (h : Schema.compile ⟨[d]⟩ config = .ok alone)
    (input : Input) : (alone.validate (input.only d.key)).failures = keyFailures config input d := by
  rw [Schema.failures_eq_flatMap h, List.flatMap_singleton, keyFailures_congr (input.get?_only d.key)]

lemma Compile.Valid.perm {ds ds' : List KeyDeclaration} (h : Compile.Valid config ds)
    (hp : ds'.Perm ds) : Compile.Valid config ds' where
  distinct := (hp.map KeyDeclaration.key).nodup_iff.mpr h.distinct
  compilable d hd := h.compilable d (hp.mem_iff.mp hd)

lemma Schema.failuresFor_perm {keys : List KeyDeclaration} {permuted : Schema}
    (h : Schema.compile declaration config = .ok schema) (hp : keys.Perm declaration.keys)
    (h' : Schema.compile ⟨keys⟩ config = .ok permuted) (input : Input) (key : String) :
    (permuted.validate input).failuresFor key = (schema.validate input).failuresFor key := by
  have hmem : key ∈ keys.map KeyDeclaration.key ↔ key ∈ declaration.keys.map KeyDeclaration.key :=
    (hp.map KeyDeclaration.key).mem_iff
  by_cases hk : key ∈ declaration.keys.map KeyDeclaration.key
  · obtain ⟨d, hd, rfl⟩ := List.mem_map.mp hk
    rw [Schema.failuresFor_of_mem h' input (hp.mem_iff.mpr hd), Schema.failuresFor_of_mem h input hd]
  · rw [Schema.failuresFor_of_not_mem h' input (fun hm => hk (hmem.mp hm)),
      Schema.failuresFor_of_not_mem h input hk]

theorem keys_independent (h : Schema.compile declaration config = .ok schema) (input : Input) :
    (∃ parts,
        List.Forall₂ (fun d part => ∃ alone, Schema.compile ⟨[d]⟩ config = .ok alone ∧
          (alone.validate (input.only d.key)).failures = part) declaration.keys parts ∧
        (schema.validate input).failures = parts.flatten) ∧
      (∀ input' : Input, (∀ d ∈ declaration.keys, input'.get? d.key = input.get? d.key) →
        schema.validate input' = schema.validate input) ∧
      (∀ (declaration' : SchemaDeclaration) (schema' : Schema) (input' : Input),
        Schema.compile declaration' config = .ok schema' →
        ∀ d ∈ declaration.keys, d ∈ declaration'.keys → input'.get? d.key = input.get? d.key →
          (schema'.validate input').failuresFor d.key = (schema.validate input).failuresFor d.key ∧
          (schema'.validate input').messagesFor d.key = (schema.validate input).messagesFor d.key) ∧
      ∀ keys : List KeyDeclaration, keys.Perm declaration.keys →
        ∃ permuted, Schema.compile ⟨keys⟩ config = .ok permuted ∧ ∀ key,
          (permuted.validate input).failuresFor key = (schema.validate input).failuresFor key ∧
          (permuted.validate input).messagesFor key = (schema.validate input).messagesFor key := by
  have hv := (Compile.schema_eq_ok_iff.mp h).1
  refine ⟨⟨declaration.keys.map (keyFailures config input), ?_, ?_⟩,
    fun input' hd => Schema.validate_congr h hd, ?_, ?_⟩
  · rw [List.forall₂_map_right_iff, List.forall₂_same]
    intro d hd
    obtain ⟨alone, halone⟩ := (hv.compilable d hd).compile_alone
    exact ⟨alone, halone, Schema.failures_alone halone input⟩
  · rw [Schema.failures_eq_flatMap h, List.flatMap_def]
  · intro declaration' schema' input' h' d hd hd' hget
    have hsame : (schema'.validate input').failuresFor d.key
        = (schema.validate input).failuresFor d.key := by
      rw [Schema.failuresFor_of_mem h' input' hd', Schema.failuresFor_of_mem h input hd,
        keyFailures_congr hget]
    exact ⟨hsame, Schema.messagesFor_eq hsame⟩
  · intro keys hp
    have h' : Schema.compile ⟨keys⟩ config = .ok _ :=
      Compile.schema_eq_ok_iff.mpr ⟨hv.perm hp, rfl⟩
    refine ⟨_, h', fun key => ?_⟩
    have hsame := Schema.failuresFor_perm h hp h' input key
    exact ⟨hsame, Schema.messagesFor_eq hsame⟩

theorem keys_independent_swapped :
    let age := ((KeyDeclaration.required "age").value "integer").check "gteq?" (.integer 18)
    let name := (KeyDeclaration.optional "name").filled "string"
    let input := Input.ofEntries [("name", .string ""), ("zip", .null), ("age", .string "17")]
    let input' := Input.ofEntries [("age", .string "17"), ("name", .string "")]
    ∃ schema swapped, Schema.compile ⟨[age, name]⟩ Config.params = .ok schema ∧
      Schema.compile ⟨[name, age]⟩ Config.params = .ok swapped ∧
      (schema.validate input).failures =
        [⟨"age", .predicate "gteq?", "must be greater than or equal to 18"⟩,
          ⟨"name", .quantifier, "must be filled"⟩] ∧
      schema.validate input' = schema.validate input ∧
      (swapped.validate input').messagesFor "age" = (schema.validate input).messagesFor "age" ∧
      ∀ key, (swapped.validate input).messagesFor key = (schema.validate input).messagesFor key := by
  intro age name input input'
  have hfailures : (Schema.compile ⟨[age, name]⟩ Config.params).map
      (fun schema => (schema.validate input).failures)
        = .ok [⟨"age", .predicate "gteq?", "must be greater than or equal to 18"⟩,
            ⟨"name", .quantifier, "must be filled"⟩] := by decide +kernel
  obtain ⟨schema, h⟩ : ∃ schema, Schema.compile ⟨[age, name]⟩ Config.params = .ok schema := ⟨_, rfl⟩
  rw [h] at hfailures
  obtain ⟨_, hinput, hbeside, hperm⟩ := keys_independent h input
  obtain ⟨swapped, hswapped, hsame⟩ := hperm [name, age] (.swap age name [])
  have hage : input'.get? age.key = input.get? age.key := rfl
  have hget : ∀ d ∈ [age, name], input'.get? d.key = input.get? d.key := by
    rintro d (_ | ⟨_, _ | ⟨_, ⟨⟩⟩⟩) <;> rfl
  exact ⟨schema, swapped, h, hswapped, Except.ok.inj hfailures, hinput input' hget,
    (hbeside ⟨[name, age]⟩ swapped input' hswapped age (by simp) (by simp) hage).2,
    fun key => (hsame key).2⟩

end Conform
