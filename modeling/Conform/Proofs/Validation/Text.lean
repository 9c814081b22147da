import Conform.Proofs.DeclaredType.Text
import Conform.Proofs.Message.Interpolation
import Conform.Proofs.Predicate.Builtin
import Conform.Proofs.Validation.EmptyText
import Conform.Proofs.Validation.Normalized

/-! Text under the types for parameters. Once a type has read a text, the later stages see only the
value that was read, so the text fails what the value fails; and which texts are read is settled by
the form of a numeral. -/

namespace Conform

open Compile Decimal

section Alike

variable {rule : Rule} {t : DeclaredType} {u v w : Value}

lemma Pipeline.evaluate_insert_congr (ht : rule.declaredType = some t)
    (hv : ∀ e, Presence.classify e (some v) = .present v)
    (hw : ∀ e, Presence.classify e (some w) = .present w) (hreadv : t.parse v = some u)
    (hreadw : t.parse w = some u) (input : Input) :
    standard.evaluate rule (input.insert rule.key v)
      = standard.evaluate rule (input.insert rule.key w) := by
  have hpresent (x : Value) (hx : ∀ e, Presence.classify e (some x) = .present x) :
      (input.insert rule.key x).classify rule.key rule.emptyText = .present x := by
    rw [Input.classify, Input.get?_insert, if_pos rfl, hx]
  have hcoerce (x : Value) (hx : t.parse x = some u) : t.coerce (.present x) = .coerced u t.name := by
    simp [DeclaredType.coerce, DeclaredType.coerce.typed, hx]
  exact Rule.evaluate_alongside (.refl rule) ht ht rfl (hpresent v hv) (hpresent w hw)
    (.inr ⟨rfl, rfl⟩) ((hcoerce v hreadv).trans (hcoerce w hreadw).symm)

lemma evaluate_numeral {text : String} {n : Int64}
    (ht : rule.declaredType = some .integerParameter) (htext : Spells text.toList n.toInt)
    (input : Input) :
    Pipeline.standard.evaluate rule (input.insert rule.key (.string text))
      = Pipeline.standard.evaluate rule (input.insert rule.key (.integer n)) := by
  have hread : DeclaredType.integerParameter.parse (.string text) = some (.integer n) :=
    Option.map_eq_some_iff.mpr ⟨n, DeclaredType.integerOfText?_eq_some_iff.mpr htext, rfl⟩
  exact Pipeline.evaluate_insert_congr ht (Presence.classify_text htext.ne_empty) (fun _ => rfl) hread
    rfl input

lemma evaluate_word {word : String} {b : Bool} (ht : rule.declaredType = some .booleanParameter)
    (hword : DeclaredType.booleanOfText? word = some b) (input : Input) :
    Pipeline.standard.evaluate rule (input.insert rule.key (.string word))
      = Pipeline.standard.evaluate rule (input.insert rule.key (.boolean b)) := by
  have hread : DeclaredType.booleanParameter.parse (.string word) = some (.boolean b) :=
    Option.map_eq_some_iff.mpr ⟨b, hword, rfl⟩
  have hne : word ≠ "" := by
    rintro rfl
    exact absurd hword (by cases b <;> decide)
  exact Pipeline.evaluate_insert_congr ht (Presence.classify_text hne) (fun _ => rfl) hread rfl input

end Alike

lemma Compile.typed_of_compileKey {config : Config} {d : KeyDeclaration} {rule : Rule} {name : String}
    {t : DeclaredType} (htypes : config.types = TypeRegistry.params)
    (h : compileKey config d = .ok rule) (hname : d.type = some name)
    (ht : TypeRegistry.params.get? name = some t) :
    rule.key = d.key ∧ rule.declaredType = some t := by
  obtain ⟨_, rfl⟩ := compileKey_eq_ok_iff.mp h
  refine ⟨rfl, ?_⟩
  rw [ruleOf, declaredType, hname, Option.bind_some, htypes, ht]

theorem text_as_scalar :
    (∀ n : Int64, Spells (Value.integer n).display.toList n.toInt) ∧
      (∀ zeros n : Nat, Spells (padded zeros n) n ∧ Spells ('+' :: padded zeros n) n ∧
        Spells ('-' :: padded zeros n) (-(n : Int))) ∧
      ∀ (config : Config) (d : KeyDeclaration) (rule : Rule), config.types = TypeRegistry.params →
        compileKey config d = .ok rule → ∀ input : Input,
          (d.type = some "integer" → ∀ (n : Int64) (text : String), Spells text.toList n.toInt →
            Pipeline.standard.evaluate rule (input.insert d.key (.string text))
              = Pipeline.standard.evaluate rule (input.insert d.key (.integer n))) ∧
          (d.type = some "bool" →
            (∀ word ∈ DeclaredType.trueWords,
              Pipeline.standard.evaluate rule (input.insert d.key (.string word))
                = Pipeline.standard.evaluate rule (input.insert d.key (.boolean true))) ∧
            ∀ word ∈ DeclaredType.falseWords,
              Pipeline.standard.evaluate rule (input.insert d.key (.string word))
                = Pipeline.standard.evaluate rule (input.insert d.key (.boolean false))) := by
  refine ⟨spells_display, spells_padded, fun config d rule htypes h input => ⟨?_, ?_⟩⟩
  · intro hinteger n text htext
    obtain ⟨hkey, ht⟩ := typed_of_compileKey (t := .integerParameter) htypes h hinteger rfl
    rw [← hkey]
    exact evaluate_numeral ht htext input
  · intro hbool
    obtain ⟨hkey, ht⟩ := typed_of_compileKey (t := .booleanParameter) htypes h hbool rfl
    rw [← hkey]
    exact ⟨fun word hword => evaluate_word ht (DeclaredType.booleanOfText?_words.1 word hword) input,
      fun word hword => evaluate_word ht (DeclaredType.booleanOfText?_words.2 word hword) input⟩

theorem text_as_scalar_signed :
    let negative : Predicate := ⟨"negative?", .comparison, [], "is below zero",
      fun v _ => match v with | some (.integer n) => n < 0 | _ => false⟩
    let config := (Config.params.withPredicate negative).withTemplates
      ⟨.empty, .empty, .ofList [("negative?", "must be negative")]⟩
    let debt := ((KeyDeclaration.optional "debt").maybe "integer").predicate "negative?"
    let terms := ((KeyDeclaration.required "terms").filled "bool").predicate "true?"
    ∃ debtRule termsRule, compileKey config debt = .ok debtRule ∧
      compileKey config terms = .ok termsRule ∧
      Pipeline.standard.evaluate debtRule
        (Input.empty.insert "debt" (.string "-9223372036854775808")) = [] ∧
      Pipeline.standard.evaluate debtRule (Input.empty.insert "debt" (.string "+007"))
        = Pipeline.standard.evaluate debtRule (Input.empty.insert "debt" (.integer 7)) ∧
      Pipeline.standard.evaluate termsRule (Input.empty.insert "terms" (.string "y")) = [] ∧
      Pipeline.standard.evaluate termsRule (Input.empty.insert "terms" (.string "off"))
        = [⟨.predicate "true?", []⟩] := by
  intro negative config debt terms
  obtain ⟨debtRule, hdebt⟩ : ∃ rule, compileKey config debt = .ok rule := ⟨_, rfl⟩
  obtain ⟨termsRule, hterms⟩ : ∃ rule, compileKey config terms = .ok rule := ⟨_, rfl⟩
  obtain ⟨hdisplay, hpadded, halike⟩ := text_as_scalar
  have hlowest := (halike config debt debtRule rfl hdebt Input.empty).1 rfl Int64.minValue _
    (hdisplay Int64.minValue)
  have hseven := (halike config debt debtRule rfl hdebt Input.empty).1 rfl 7 "+007" (hpadded 2 7).2.1
  obtain ⟨htrue, hfalse⟩ := (halike config terms termsRule rfl hterms Input.empty).2 rfl
  obtain rfl : _ = debtRule := Except.ok.inj hdebt
  obtain rfl : _ = termsRule := Except.ok.inj hterms
  exact ⟨_, _, hdebt, hterms, hlowest, hseven, htrue "y" (by decide), hfalse "off" (by decide)⟩

section Below

variable {input : Input} {key text : String} {bound n : Int64} {schema : Schema}

def KeyDeclaration.below (key : String) (bound : Int64) : KeyDeclaration :=
  ((KeyDeclaration.required key).value "integer").check "lt?" (.integer bound)

def tooLarge (bound : Int64) : FailedCheck := ⟨.predicate "lt?", [⟨"num", .integer bound⟩]⟩

def belowRule (key : String) (bound : Int64) : Rule :=
  ⟨key, .required, .value, some .integerParameter,
    [⟨"lt?", [.integer bound], [Predicate.boundParameter], Predicate.lessThan⟩]⟩

lemma ruleOf_below (key : String) (bound : Int64) :
    ruleOf Config.params (.below key bound) = belowRule key bound := rfl

lemma predicateFailures_below (key : String) (bound : Int64) (subject : Option Value) :
    (belowRule key bound).predicateFailures subject
      = if Predicate.lessThan subject [.integer bound] then [] else [tooLarge bound] := by
  cases h : Predicate.lessThan subject [.integer bound] <;>
    simp [Rule.predicateFailures, belowRule, PredicateRule.holds, h, Stage.failedPredicate,
      PredicateRule.namedArgs, Predicate.boundParameter, tooLarge]

lemma evaluate_belowRule {p : Presence} {typed : TypedValue} (hp : input.classify key .null = p)
    (hthere : p.kind ≠ .absent) (hcoerce : DeclaredType.integerParameter.coerce p = typed) :
    Pipeline.standard.evaluate (belowRule key bound) input =
      (if typed.isCoerced then [] else [.bare (.type "integer")])
        ++ if Predicate.lessThan typed.subject [.integer bound] then [] else [tooLarge bound] := by
  rw [← predicateFailures_below key bound, ← hcoerce]
  exact Pipeline.evaluate_value hp hthere rfl rfl

lemma evaluate_below_numeral (hraw : input.get? key = some (.string text))
    (h : Spells text.toList n.toInt) :
    Pipeline.standard.evaluate (belowRule key bound) input
      = if n.toInt < bound.toInt then [] else [tooLarge bound] := by
  have hp : input.classify key .null = .present (.string text) := by
    rw [Input.classify, hraw, Presence.classify_text h.ne_empty]
  have hcoerce := DeclaredType.coerce_integerParameter_eq_coerced_iff.mpr h
  rw [evaluate_belowRule hp (by simp [Presence.kind]) hcoerce, TypedValue.subject,
    Predicate.lessThan_integers]
  simp [TypedValue.isCoerced]

lemma evaluate_below_other (hraw : input.get? key = some (.string text))
    (h : ∀ n : Int64, ¬ Spells text.toList n.toInt) :
    Pipeline.standard.evaluate (belowRule key bound) input
      = [.bare (.type "integer"), tooLarge bound] := by
  by_cases htext : text = ""
  · -- the empty text is null, and null is not below the bound either
    have hp : input.classify key .null = .null := by
      rw [Input.classify, hraw, htext]
      rfl
    exact evaluate_belowRule hp (by simp [Presence.kind]) rfl
  · have hp : input.classify key .null = .present (.string text) := by
      rw [Input.classify, hraw, Presence.classify_text htext]
    have hcoerce := DeclaredType.coerce_integerParameter_of_not_spells h
    exact evaluate_belowRule hp (by simp [Presence.kind]) hcoerce

lemma resolve_tooLarge (bound : Int64) :
    TemplateSet.english.resolve (tooLarge bound).check (tooLarge bound).args
      = "must be less than " ++ toString bound.toInt := by
  have htemplate : TemplateSet.english.template? (tooLarge bound).check
      = some ("must be less than " ++ ("%\x7b" ++ ("num" ++ "\x7d"))) := rfl
  have hopening : ¬ Template.opening <:+: "must be less than ".toList := by decide
  have hclosing : '\x7d' ∉ "num".toList := by decide
  rw [TemplateSet.resolve, htemplate]
  exact Template.interpolate_final (a := ⟨"num", .integer bound⟩) hopening hclosing []

lemma schema_below (key : String) (bound : Int64) :
    ∃ schema, Schema.compile ⟨[.below key bound]⟩ Config.params = .ok schema :=
  ⟨_, rfl⟩

lemma messages_below {checks : List FailedCheck}
    (h : Schema.compile ⟨[.below key bound]⟩ Config.params = .ok schema)
    (hevaluate : Pipeline.standard.evaluate (belowRule key bound) input = checks) :
    (schema.validate input).messagesFor key
      = checks.map fun c => TemplateSet.english.resolve c.check c.args := by
  rw [← hevaluate, ← ruleOf_below]
  exact Schema.messagesFor_of_mem h input List.mem_cons_self

lemma messages_below_numeral (hschema : Schema.compile ⟨[.below key bound]⟩ Config.params = .ok schema)
    (hraw : input.get? key = some (.string text)) (h : Spells text.toList n.toInt) :
    (schema.validate input).messagesFor key
      = if n.toInt < bound.toInt then [] else ["must be less than " ++ toString bound.toInt] := by
  rw [messages_below hschema (evaluate_below_numeral hraw h)]
  by_cases hbound : n.toInt < bound.toInt
  · rw [if_pos hbound, if_pos hbound, List.map_nil]
  · rw [if_neg hbound, if_neg hbound, List.map_singleton, resolve_tooLarge]

lemma messages_below_other (hschema : Schema.compile ⟨[.below key bound]⟩ Config.params = .ok schema)
    (hraw : input.get? key = some (.string text)) (h : ∀ n : Int64, ¬ Spells text.toList n.toInt) :
    (schema.validate input).messagesFor key
      = ["must be an integer", "must be less than " ++ toString bound.toInt] := by
  have htype : TemplateSet.english.resolve (.type "integer") [] = "must be an integer" := by
    decide +kernel
  rw [messages_below hschema (evaluate_below_other hraw h), List.map_cons, List.map_singleton,
    resolve_tooLarge]
  exact congrArg (· :: _) htype

theorem integer_text_judged :
    (∃ t, TypeRegistry.params.get? "integer" = some t ∧ ∀ text : String,
      (∀ n : Int, (∃ m : Int64, m.toInt = n ∧
          t.coerce (.present (.string text)) = .coerced (.integer m) "integer") ↔
        Spells text.toList n ∧ -2 ^ 63 ≤ n ∧ n ≤ 2 ^ 63 - 1) ∧
      ((∀ n : Int, Spells text.toList n → ¬ (-2 ^ 63 ≤ n ∧ n ≤ 2 ^ 63 - 1)) →
        t.coerce (.present (.string text)) = .failed (some (.string text)))) ∧
    ∀ (key : String) (bound : Int64), ∃ schema,
      Schema.compile ⟨[((KeyDeclaration.required key).value "integer").check "lt?" (.integer bound)]⟩
          Config.params = .ok schema ∧
      ∀ text : String,
        let messages := (schema.validate (Input.ofEntries [(key, .string text)])).messagesFor key
        let refusal := "must be less than " ++ toString bound.toInt
        (∀ n : Int, Spells text.toList n → -2 ^ 63 ≤ n ∧ n ≤ 2 ^ 63 - 1 →
          messages = if n < bound.toInt then [] else [refusal]) ∧
        ((∀ n : Int, Spells text.toList n → ¬ (-2 ^ 63 ≤ n ∧ n ≤ 2 ^ 63 - 1)) →
          messages = ["must be an integer", refusal]) := by
  have hnone {text : String}
      (h : ∀ n : Int, Spells text.toList n → ¬ (-2 ^ 63 ≤ n ∧ n ≤ 2 ^ 63 - 1)) (m : Int64) :
      ¬ Spells text.toList m.toInt :=
    fun hm => h m.toInt hm (exists_toInt_iff.mp ⟨m, rfl⟩)
  refine ⟨⟨DeclaredType.integerParameter, rfl, fun text => ⟨fun n => ⟨?_, ?_⟩, fun h => ?_⟩⟩,
    fun key bound => ?_⟩
  · rintro ⟨m, rfl, hcoerce⟩
    exact ⟨DeclaredType.coerce_integerParameter_eq_coerced_iff.mp hcoerce,
      exists_toInt_iff.mp ⟨m, rfl⟩⟩
  · rintro ⟨htext, hrange⟩
    obtain ⟨m, rfl⟩ := exists_toInt_iff.mpr hrange
    exact ⟨m, rfl, DeclaredType.coerce_integerParameter_eq_coerced_iff.mpr htext⟩
  · exact DeclaredType.coerce_integerParameter_of_not_spells (hnone h)
  · obtain ⟨schema, hschema⟩ := schema_below key bound
    refine ⟨schema, hschema, fun text => ⟨fun n htext hrange => ?_, fun h => ?_⟩⟩
    · obtain ⟨m, rfl⟩ := exists_toInt_iff.mpr hrange
      exact messages_below_numeral hschema (Input.get?_ofEntries_single key _) htext
    · exact messages_below_other hschema (Input.get?_ofEntries_single key _) (hnone h)

theorem integer_text_judged_limits : ∃ schema,
    Schema.compile ⟨[((KeyDeclaration.required "age").value "integer").check "lt?" (.integer 23)]⟩
        Config.params = .ok schema ∧
      let messages := fun text =>
        (schema.validate (Input.ofEntries [("age", .string text)])).messagesFor "age"
      messages "+007" = [] ∧ messages "9223372036854775807" = ["must be less than 23"] ∧
        messages "9223372036854775808" = ["must be an integer", "must be less than 23"] ∧
        messages "" = ["must be an integer", "must be less than 23"] := by
  obtain ⟨schema, h, hmessages⟩ := integer_text_judged.2 "age" 23
  refine ⟨schema, h, ?_⟩
  have hseven : Spells "+007".toList 7 := (spells_padded 2 7).2.1
  have hgreatest : Spells "9223372036854775807".toList 9223372036854775807 :=
    (spells_padded 0 9223372036854775807).1
  have hbehind : Spells "9223372036854775808".toList 9223372036854775808 :=
    (spells_padded 0 9223372036854775808).1
  refine ⟨(hmessages _).1 7 hseven (by decide), (hmessages _).1 _ hgreatest (by decide),
    (hmessages _).2 fun n hn => ?_, (hmessages _).2 fun n hn => absurd rfl hn.ne_empty⟩
  obtain rfl := hbehind.unique hn
  decide

end Below

end Conform
