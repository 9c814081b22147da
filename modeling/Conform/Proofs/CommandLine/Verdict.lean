import Conform.CommandLine
import Conform.Proofs.Outcome.Views

/-! What a check answers. A verdict has six steps in front of it, of which each can fail; the status tells
whether all of them succeed and then what the verdict is. Without all of them nothing is printed, and
what is printed lists the failures one by one. -/

namespace Conform

lemma Input.parse_eq_ok_iff {text : String} {input : Input} :
    Input.parse text = .ok input ↔
      ∃ entries, (Json.document? text).bind Value.ofDocument? = some (.map entries) ∧
        Input.ofEntries entries = input := by
  cases h : (Json.document? text).bind Value.ofDocument? with
  | none => simp [Input.parse, h]
  | some v => cases v <;> simp [Input.parse, Input.ofValue, h]

namespace CommandLine

inductive Configures (files : Files) (o : CheckOptions) : Config → Prop
  | plain : o.messages = none → Configures files o (Config.forStyle o.style)
  | merged {path text templates} : o.messages = some path → files path = .ok text →
      TemplateSet.parse? text = some templates →
      Configures files o ((Config.forStyle o.style).withTemplates templates)

def DeclarationLoads (files : Files) (path : String) (declaration : SchemaDeclaration) : Prop :=
  ∃ text, files path = .ok text ∧ SchemaDeclaration.parse? (formatOf path) text = some declaration

def InputLoads (files : Files) (path : String) (input : Input) : Prop :=
  ∃ text entries, files path = .ok text ∧
    (Json.document? text).bind Value.ofDocument? = some (.map entries) ∧
    Input.ofEntries entries = input

structure Admits (files : Files) (args : List String) (o : CheckOptions)
    (declaration : SchemaDeclaration) (config : Config) (schema : Schema) (input : Input) : Prop where
  arguments : parseCheck args = .ok o
  declared : DeclarationLoads files o.schema declaration
  configured : Configures files o config
  compiled : Schema.compile declaration config = .ok schema
  read : InputLoads files o.input input

variable {files : Files} {args : List String} {o : CheckOptions} {outcome : Outcome}
  {declaration : SchemaDeclaration} {config : Config} {schema : Schema} {input : Input}

lemma loadSchema_eq_ok_iff {path : String} :
    loadSchema files path = .ok declaration ↔ DeclarationLoads files path declaration := by
  cases ht : files path with
  | error e => simp [loadSchema, DeclarationLoads, ht]
  | ok text =>
    cases hd : SchemaDeclaration.parse? (formatOf path) text <;>
      simp [loadSchema, DeclarationLoads, ht, hd]

lemma loadMessages_eq_ok_iff {path : String} {templates : TemplateSet} :
    loadMessages files path = .ok templates ↔
      ∃ text, files path = .ok text ∧ TemplateSet.parse? text = some templates := by
  cases ht : files path with
  | error e => simp [loadMessages, ht]
  | ok text => cases hs : TemplateSet.parse? text <;> simp [loadMessages, ht, hs]

lemma loadConfig_eq_ok_iff :
    loadConfig files o = .ok config ↔ Configures files o config := by
  cases hm : o.messages with
  | none =>
    constructor
    · intro h
      obtain rfl : Config.forStyle o.style = config := by simpa [loadConfig, hm] using h
      exact .plain hm
    · rintro (_ | ⟨hpath, _, _⟩)
      · simp [loadConfig, hm]
      · simp [hm] at hpath
  | some path =>
    constructor
    · intro h
      cases hl : loadMessages files path with
      | error e => simp [loadConfig, hm, hl] at h
      | ok templates =>
        obtain rfl : (Config.forStyle o.style).withTemplates templates = config := by
          simpa [loadConfig, hm, hl] using h
        obtain ⟨text, ht, hs⟩ := loadMessages_eq_ok_iff.mp hl
        exact .merged hm ht hs
    · rintro (hnone | ⟨hpath, ht, hs⟩)
      · simp [hm] at hnone
      · obtain rfl := Option.some.inj (hm.symm.trans hpath)
        have hl := loadMessages_eq_ok_iff.mpr ⟨_, ht, hs⟩
        simp [loadConfig, hm, hl]

lemma loadInput_eq_ok_iff {path : String} :
    loadInput files path = .ok input ↔ InputLoads files path input := by
  have hparse : loadInput files path = .ok input ↔
      ∃ text, files path = .ok text ∧ Input.parse text = .ok input := by
    cases ht : files path with
    | error e => simp [loadInput, ht]
    | ok text => cases hp : Input.parse text <;> simp [loadInput, ht, hp]
  simp only [hparse, Input.parse_eq_ok_iff, InputLoads, exists_and_left]

lemma mapError_eq_ok_iff {ε ε' α : Type} {f : ε → ε'} {x : Except ε α} {a : α} :
    x.mapError f = .ok a ↔ x = .ok a := by
  cases x <;> simp [Except.mapError]

lemma bind_eq_ok_iff {ε α β : Type} {x : Except ε α} {f : α → Except ε β} {b : β} :
    x >>= f = .ok b ↔ ∃ a, x = .ok a ∧ f a = .ok b := by
  cases x <;> simp [bind, Except.bind]

lemma validateFiles_eq_ok_iff (h : parseCheck args = .ok o) :
    validateFiles files o = .ok outcome ↔
      ∃ declaration config schema input, Admits files args o declaration config schema input ∧
        schema.validate input = outcome := by
  simp only [validateFiles, bind_eq_ok_iff, mapError_eq_ok_iff, loadSchema_eq_ok_iff,
    loadConfig_eq_ok_iff, loadInput_eq_ok_iff, pure, Except.pure, Except.ok.injEq]
  constructor
  · rintro ⟨declaration, hd, config, hc, schema, hs, input, hi, rfl⟩
    exact ⟨declaration, config, schema, input, ⟨h, hd, hc, hs, hi⟩, rfl⟩
  · rintro ⟨declaration, config, schema, input, ha, rfl⟩
    exact ⟨declaration, ha.declared, config, ha.configured, schema, ha.compiled, input, ha.read, rfl⟩

lemma exists_admits_iff (h : parseCheck args = .ok o) :
    (∃ outcome, validateFiles files o = .ok outcome) ↔
      ∃ o declaration config schema input, Admits files args o declaration config schema input := by
  simp only [validateFiles_eq_ok_iff h]
  constructor
  · rintro ⟨_, declaration, config, schema, input, ha, rfl⟩
    exact ⟨o, declaration, config, schema, input, ha⟩
  · rintro ⟨o', declaration, config, schema, input, ha⟩
    obtain rfl : o = o' := Except.ok.inj (h.symm.trans ha.arguments)
    exact ⟨_, declaration, config, schema, input, ha, rfl⟩

lemma check_of_admits (h : Admits files args o declaration config schema input) :
    check files args =
      { exit := if (schema.validate input).successful then 0 else 1
        stdout := if o.json then lines [Json.pretty (schema.validate input).document]
          else report (schema.validate input)
        stderr := "" } := by
  have hv : validateFiles files o = .ok (schema.validate input) :=
    (validateFiles_eq_ok_iff h.arguments).mpr ⟨declaration, config, schema, input, h, rfl⟩
  rw [check, h.arguments]
  simp [Except.mapError, hv, bind, Except.bind, pure, Except.pure]

lemma check_of_not_admits
    (h : ¬ ∃ o declaration config schema input, Admits files args o declaration config schema input) :
    ∃ e : CheckError, check files args = ⟨2, "", lines ["❌ Error: " ++ e.message]⟩ := by
  cases hp : parseCheck args with
  | error e => exact ⟨.arguments e, by rw [check, hp]; rfl⟩
  | ok o =>
    cases hv : validateFiles files o with
    | error e => exact ⟨e, by rw [check, hp]; simp [Except.mapError, hv, bind, Except.bind]⟩
    | ok outcome => exact absurd ((exists_admits_iff hp).mp ⟨outcome, hv⟩) h

lemma exit_of_admits (h : Admits files args o declaration config schema input) :
    (check files args).exit = if (schema.validate input).successful then 0 else 1 :=
  congrArg Answer.exit (check_of_admits h)

lemma exit_eq_two_iff :
    (check files args).exit = 2 ↔
      ¬ ∃ o declaration config schema input, Admits files args o declaration config schema input := by
  constructor
  · rintro htwo ⟨o, declaration, config, schema, input, ha⟩
    have hverdict := (exit_of_admits ha).symm.trans htwo
    split at hverdict <;> cases hverdict
  · intro h
    obtain ⟨e, he⟩ := check_of_not_admits h
    exact congrArg Answer.exit he

lemma exit_eq_verdict_iff (successful : Bool) :
    (check files args).exit = (if successful then 0 else 1) ↔
      ∃ o declaration config schema input, Admits files args o declaration config schema input ∧
        (schema.validate input).successful = successful := by
  constructor
  · intro h
    have hadmits : ∃ o declaration config schema input,
        Admits files args o declaration config schema input := by
      refine not_not.mp fun hnone => ?_
      have htwo := (exit_eq_two_iff.mpr hnone).symm.trans h
      split at htwo <;> cases htwo
    obtain ⟨o, declaration, config, schema, input, ha⟩ := hadmits
    refine ⟨o, declaration, config, schema, input, ha, ?_⟩
    have hverdict := (exit_of_admits ha).symm.trans h
    cases hs : (schema.validate input).successful <;> cases successful <;> simp_all
  · rintro ⟨o, declaration, config, schema, input, ha, rfl⟩
    exact exit_of_admits ha

lemma report_of_itemized (h : Outcome.Itemized outcome) :
    report outcome
      = lines (outcome.summary :: outcome.failures.map fun f => failureLine f.key f.message) := by
  have hentries : (outcome.messages.entries.flatMap fun e => e.2.map fun message =>
      failureLine e.1 message) = outcome.lines.map fun l => failureLine l.1 l.2 := by
    simp [Outcome.lines, List.map_flatMap, Function.comp_def]
  rw [report, hentries, h.lines, List.map_map]
  rfl

end CommandLine

lemma Schema.itemized_validate {declaration : SchemaDeclaration} {config : Config} {schema : Schema}
    (h : Schema.compile declaration config = .ok schema) (input : Input) :
    Outcome.Itemized (schema.validate input) := by
  have hkeys : ((schema.rules.map fun rule =>
      (rule.key, Pipeline.standard.evaluate rule input)).map Prod.fst).Nodup := by
    simpa [Function.comp_def] using Schema.keys_nodup h
  exact (Outcome.coherent_ofRecords schema.templates _).itemized (Outcome.lines_ofRecords hkeys)

open CommandLine

theorem check_exit_status (files : Files) (args : List String) :
    let answer := CommandLine.run files ("check" :: args)
    (answer.exit = 0 ↔ ∃ o declaration config schema input,
      Admits files args o declaration config schema input ∧
        (schema.validate input).successful = true) ∧
    (answer.exit = 1 ↔ ∃ o declaration config schema input,
      Admits files args o declaration config schema input ∧
        (schema.validate input).successful = false) ∧
    (answer.exit = 2 ↔ ¬ ∃ o declaration config schema input,
      Admits files args o declaration config schema input) ∧
    (answer.exit = 2 → answer.stdout = "") ∧
    ∀ o declaration config schema input, Admits files args o declaration config schema input →
      o.json = false →
        let outcome := schema.validate input
        let entries := outcome.failures.map fun f => "   " ++ f.key ++ " " ++ f.message
        answer.stdout = lines (outcome.summary :: entries) ∧
          outcome.summary = (if entries = [] then "✓ Input is valid"
            else "✗ " ++ toString entries.length ++ " failure(s) across "
              ++ toString outcome.messages.size ++ " key(s)") ∧
          (outcome.successful = true ↔ entries = []) := by
  intro answer
  refine ⟨exit_eq_verdict_iff true, exit_eq_verdict_iff false, exit_eq_two_iff, fun htwo => ?_, ?_⟩
  · obtain ⟨e, he⟩ := check_of_not_admits (exit_eq_two_iff.mp htwo)
    exact congrArg Answer.stdout he
  · intro o declaration config schema input ha hjson outcome entries
    have hsuccessful : outcome.successful = true ↔ entries = [] := by
      rw [List.map_eq_nil_iff]
      exact (Outcome.coherent_ofRecords schema.templates _).successful
    have hlength : entries.length = outcome.failures.length := List.length_map _
    have hstdout : answer.stdout = report outcome := by
      have hanswer : answer.stdout = _ := congrArg Answer.stdout (check_of_admits ha)
      rw [hanswer, hjson]
      rfl
    refine ⟨?_, ?_, hsuccessful⟩
    · rw [hstdout, report_of_itemized (Schema.itemized_validate ha.compiled input)]
      rfl
    · simp only [Outcome.summary, hsuccessful, hlength]

theorem check_exit_status_two_lines :
    let files : Files := fun path =>
      if path = "schema.json" then
        .ok "\x7b\"keys\": [[\"name\"], \x7b\"key\": \"age\", \"type\": \"integer\"\x7d]\x7d"
      else if path = "messages.toml" then .ok "[types]\ninteger = \"is no number\""
      else if path = "input.json" then .ok "\x7b\"age\": \"x\"\x7d"
      else .error .notFound
    let args := ["schema.json", "input.json", "--messages", "messages.toml"]
    let answer := CommandLine.run files ("check" :: args)
    answer.exit = 1 ∧
      answer.stdout = "✗ 2 failure(s) across 2 key(s)\n   name is missing\n   age is no number\n" ∧
      ∃ o declaration config schema input, Admits files args o declaration config schema input ∧
        answer.stdout = lines ((schema.validate input).summary ::
          (schema.validate input).failures.map fun f => "   " ++ f.key ++ " " ++ f.message) := by
  intro files args answer
  obtain ⟨_, hrejected, _, _, hprinted⟩ := check_exit_status files args
  have hexit : answer.exit = 1 := by decide +kernel
  obtain ⟨o, declaration, config, schema, input, ha, _⟩ := hrejected.mp hexit
  obtain rfl : ⟨"schema.json", "input.json", false, .params, some "messages.toml"⟩ = o :=
    Except.ok.inj ha.arguments
  exact ⟨hexit, by decide +kernel, _, declaration, config, schema, input, ha,
    (hprinted _ _ _ _ _ ha rfl).1⟩

end Conform
