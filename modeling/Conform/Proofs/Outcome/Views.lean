import Conform.Proofs.Compile.Validity
import Conform.Validation
import Mathlib.Data.List.Induction

/-! The three views of an outcome: the verdict, the messages of each key and the list of failures.
Recording keeps them in agreement whatever is recorded. That the messages, key by key, are the
failures in their order needs more: no key may be recorded twice, and compilation sees to that. -/

namespace Conform

namespace Outcome

def failuresFor (o : Outcome) (key : String) : List Failure := o.failures.filter fun f => f.key = key

def lines (o : Outcome) : List (String × String) :=
  o.messages.entries.flatMap fun e => e.2.map fun message => (e.1, message)

def failingKeys (records : List (String × List FailedCheck)) : List String :=
  (records.filter fun r => !r.2.isEmpty).map Prod.fst

structure Coherent (templates : TemplateSet) (records : List (String × List FailedCheck))
    (o : Outcome) : Prop where
  successful : o.successful = true ↔ o.failures = []
  messages : o.messages.isEmpty = true ↔ o.failures = []
  keys : o.messages.keys = (failingKeys records).eraseDups
  messagesFor : ∀ key, o.messagesFor key = (o.failuresFor key).map Failure.message
  failures : o.failures
    = records.flatMap fun r => r.2.map fun c => ⟨r.1, c.check, templates.resolve c.check c.args⟩

structure Itemized (o : Outcome) : Prop where
  lines : o.lines = o.failures.map fun f => (f.key, f.message)
  summary : o.summary = if o.lines = [] then "✓ Input is valid"
    else "✗ " ++ toString o.lines.length ++ " failure(s) across " ++ toString o.messages.keys.length
      ++ " key(s)"

variable {templates : TemplateSet} {records : List (String × List FailedCheck)} {o : Outcome}

lemma failingKeys_concat (key : String) (checks : List FailedCheck) :
    failingKeys (records ++ [(key, checks)])
      = failingKeys records ++ if checks = [] then [] else [key] := by
  cases checks <;> simp [failingKeys]

lemma successful_record (key : String) (checks : List FailedCheck) :
    (o.record templates key checks).successful = true ↔ o.successful = true ∧ checks = [] := by
  cases checks <;> simp [record]

lemma keys_record (key : String) (checks : List FailedCheck) :
    (o.record templates key checks).messages.keys
      = if checks = [] ∨ key ∈ o.messages.keys then o.messages.keys
        else o.messages.keys ++ [key] := by
  cases checks <;> simp [record, OrderedMap.keys_insert]

lemma messagesFor_record (key name : String) (checks : List FailedCheck) :
    (o.record templates key checks).messagesFor name
      = o.messagesFor name
        ++ if name = key then checks.map fun c => templates.resolve c.check c.args else [] := by
  cases checks with
  | nil => simp [record]
  | cons c cs =>
    by_cases h : name = key
    · simp [record, messagesFor, OrderedMap.get?_insert, failure, h]
    · simp [record, messagesFor, OrderedMap.get?_insert, h]

lemma failuresFor_record (key name : String) (checks : List FailedCheck) :
    (o.record templates key checks).failuresFor name
      = o.failuresFor name ++ if name = key then checks.map (failure templates key) else [] := by
  have hkey : (checks.map (failure templates key)).filter (fun f => f.key = name)
      = if name = key then checks.map (failure templates key) else [] := by
    by_cases h : name = key
    · simp [failure, h, List.filter_eq_self]
    · have h' : ¬ key = name := fun e => h e.symm
      simp [failure, h, h', List.filter_eq_nil_iff]
  rw [failuresFor, failures_record, List.filter_append, hkey, failuresFor]

lemma coherent_success : Coherent templates [] success where
  successful := by simp [success]
  messages := by simp [success, OrderedMap.empty, OrderedMap.isEmpty]
  keys := rfl
  messagesFor key := rfl
  failures := rfl

lemma Coherent.record (h : Coherent templates records o) (key : String)
    (checks : List FailedCheck) :
    Coherent templates (records ++ [(key, checks)]) (o.record templates key checks) where
  successful := by
    rw [successful_record, failures_record, h.successful, List.append_eq_nil_iff,
      List.map_eq_nil_iff]
  messages := by
    have hkeys : o.messages.keys = [] ↔ o.failures = [] :=
      (OrderedMap.keys_eq_nil_iff _).trans h.messages
    rw [← OrderedMap.keys_eq_nil_iff, failures_record, keys_record, List.append_eq_nil_iff,
      List.map_eq_nil_iff, ← hkeys]
    by_cases hc : checks = []
    · simp [hc]
    · by_cases hm : key ∈ o.messages.keys
      · simp [hc, hm, List.ne_nil_of_mem hm]
      · simp [hc, hm]
  keys := by
    simp only [keys_record, failingKeys_concat, h.keys, List.mem_eraseDups]
    by_cases hc : checks = []
    · simp [hc]
    · simp [hc, eraseDups_concat]
  messagesFor name := by
    rw [messagesFor_record, failuresFor_record, h.messagesFor, List.map_append]
    by_cases hn : name = key <;> simp [hn, failure, Function.comp_def]
  failures := by
    rw [failures_record, h.failures, List.flatMap_append]
    simp [failure]

lemma ofRecords_concat (key : String) (checks : List FailedCheck) :
    ofRecords templates (records ++ [(key, checks)])
      = (ofRecords templates records).record templates key checks := by
  simp [ofRecords]

lemma coherent_ofRecords (templates : TemplateSet) (records : List (String × List FailedCheck)) :
    Coherent templates records (ofRecords templates records) := by
  induction records using List.reverseRecOn with
  | nil => exact coherent_success
  | append_singleton records r ih =>
    rw [ofRecords_concat]
    exact ih.record r.1 r.2

lemma Coherent.not_mem_keys (h : Coherent templates records o) {key : String}
    (hk : key ∉ records.map Prod.fst) : key ∉ o.messages.keys := by
  rw [h.keys, List.mem_eraseDups]
  intro hm
  obtain ⟨r, hr, rfl⟩ := List.mem_map.mp hm
  exact hk (List.mem_map_of_mem (List.mem_of_mem_filter hr))

lemma messagesFor_of_not_mem {key : String} (h : key ∉ o.messages.keys) :
    o.messagesFor key = [] := by
  have hget : o.messages.get? key = none := Entries.get?_eq_none_iff.mpr h
  simp [messagesFor, hget]

lemma lines_record_of_not_mem {key : String} (h : key ∉ o.messages.keys)
    (checks : List FailedCheck) :
    (o.record templates key checks).lines
      = o.lines ++ checks.map fun c => (key, templates.resolve c.check c.args) := by
  cases checks with
  | nil => simp [record]
  | cons c cs =>
    have hinsert (ms : List String) :
        o.messages.entries.insert key ms = o.messages.entries ++ [(key, ms)] :=
      Entries.insert_of_not_mem h ms
    simp [record, lines, OrderedMap.insert, hinsert, messagesFor_of_not_mem h, failure]

lemma lines_ofRecords (h : (records.map Prod.fst).Nodup) :
    (ofRecords templates records).lines
      = (ofRecords templates records).failures.map fun f => (f.key, f.message) := by
  induction records using List.reverseRecOn with
  | nil => rfl
  | append_singleton records r ih =>
    -- the last key is a new one, so its messages go behind all others, as its failures do
    rw [List.map_append, List.nodup_append] at h
    obtain ⟨hrecords, _, hfresh⟩ := h
    have hr : r.1 ∉ records.map Prod.fst := fun hm => hfresh _ hm _ (List.mem_singleton_self _) rfl
    have hkey := (coherent_ofRecords templates records).not_mem_keys hr
    rw [ofRecords_concat, lines_record_of_not_mem hkey, ih hrecords, failures_record,
      List.map_append]
    simp [failure]

lemma Coherent.itemized (h : Coherent templates records o)
    (hl : o.lines = o.failures.map fun f => (f.key, f.message)) : Itemized o where
  lines := hl
  summary := by
    have hs : o.successful = true ↔ o.lines = [] := by rw [h.successful, hl, List.map_eq_nil_iff]
    have hlength : o.lines.length = o.failures.length := by rw [hl, List.length_map]
    have hsize : o.messages.keys.length = o.messages.size := by
      simp [OrderedMap.keys, Entries.keys, OrderedMap.size]
    simp [summary, hs, hlength, hsize]

end Outcome

lemma Schema.keys_nodup {declaration : SchemaDeclaration} {config : Config} {schema : Schema}
    (h : Schema.compile declaration config = .ok schema) :
    (schema.rules.map Rule.key).Nodup := by
  obtain ⟨hv, rfl⟩ := Compile.schema_eq_ok_iff.mp h
  simpa [Compile.ruleOf, Function.comp_def] using hv.distinct

theorem views_agree (templates : TemplateSet) (records : List (String × List FailedCheck)) :
    Outcome.Coherent templates records (Outcome.ofRecords templates records) ∧
      ∀ (declaration : SchemaDeclaration) (config : Config) (schema : Schema),
        Schema.compile declaration config = .ok schema → ∀ input : Input,
          Outcome.Coherent config.templates
              (schema.rules.map fun rule => (rule.key, Pipeline.standard.evaluate rule input))
              (schema.validate input) ∧
            Outcome.Itemized (schema.validate input) := by
  refine ⟨Outcome.coherent_ofRecords templates records, fun declaration config schema h input => ?_⟩
  have hc := Outcome.coherent_ofRecords schema.templates
    (schema.rules.map fun rule => (rule.key, Pipeline.standard.evaluate rule input))
  have hnodup : ((schema.rules.map fun rule =>
      (rule.key, Pipeline.standard.evaluate rule input)).map Prod.fst).Nodup := by
    simpa [Function.comp_def] using Schema.keys_nodup h
  have ht : schema.templates = config.templates := by
    obtain ⟨_, rfl⟩ := Compile.schema_eq_ok_iff.mp h
    rfl
  exact ⟨ht ▸ hc, hc.itemized (Outcome.lines_ofRecords hnodup)⟩

theorem views_agree_three_lines :
    let declaration : SchemaDeclaration :=
      ⟨[((KeyDeclaration.required "age").value "integer").check "gteq?" (.integer 18)
          |>.predicate "even?",
        (KeyDeclaration.optional "name").filled "string"]⟩
    let input := Input.ofEntries [("name", .string ""), ("age", .string "17")]
    ∃ schema, Schema.compile declaration Config.params = .ok schema ∧
      (schema.validate input).summary = "✗ 3 failure(s) across 2 key(s)" ∧
      Outcome.Itemized (schema.validate input) := by
  intro declaration input
  have hsummary : (Schema.compile declaration Config.params).map
      (fun schema => (schema.validate input).summary)
        = .ok "✗ 3 failure(s) across 2 key(s)" := by decide +kernel
  obtain ⟨schema, h⟩ : ∃ schema, Schema.compile declaration Config.params = .ok schema := ⟨_, rfl⟩
  rw [h] at hsummary
  exact ⟨schema, h, Except.ok.inj hsummary,
    ((views_agree TemplateSet.empty []).2 declaration Config.params schema h input).2⟩

end Conform
