import Conform.Proofs.Validation.Independence
import Conform.Proofs.Validation.Styles
import Mathlib.Data.List.Nodup

/-! Parameters as documents. What the types for parameters read out of text is what the types for
documents expect to find; with every value replaced by what was read from it, an input has the same
outcome as a document that it has as parameters. -/

namespace Conform

open Compile

namespace Presence

variable {e e' : EmptyText} {raw : Option Value} {v : Value}

lemma raw_of_blank (h : classify e raw = blank v) : raw = some v := by
  have hvalue : (classify e raw).value = raw := value_classify (h ▸ nofun)
  rw [← hvalue, h, value]

lemma raw_of_present (h : classify e raw = present v) : raw = some v := by
  have hvalue : (classify e raw).value = raw := value_classify (h ▸ nofun)
  rw [← hvalue, h, value]

lemma classify_of_blank (h : classify .null raw = blank v) : classify e raw = blank v := by
  match raw with
  | none | some .null | some (.boolean _) | some (.integer _) | some (.float _) => cases h
  | some (.string s) => by_cases hs : s.isEmpty = true <;> simp [classify, hs] at h
  | some (.array items) | some (.map entries) => exact h

end Presence

namespace DeclaredType

variable {s t : DeclaredType} {raw w : Value} {kind : ValueKind}

def normalize (t : DeclaredType) (raw : Value) : Value :=
  match Presence.classify t.emptyText (some raw) with
  | .null => .null
  | p =>
    match t.coerce p with
    | .coerced v _ => v
    | .failed _ => raw

lemma normalize_of_null (h : Presence.classify t.emptyText (some raw) = .null) :
    t.normalize raw = .null := by
  rw [normalize, h]

lemma normalize_of_coerced {name : String}
    (h : t.coerce (.classify t.emptyText (some raw)) = .coerced w name) : t.normalize raw = w := by
  rw [normalize]
  cases hp : Presence.classify t.emptyText (some raw) with
  | null => simp [hp, coerce] at h
  | absent | blank v | present v =>
    rw [hp] at h
    simp only [h]

lemma normalize_of_failed {rest : Option Value}
    (hn : Presence.classify t.emptyText (some raw) ≠ .null)
    (h : t.coerce (.classify t.emptyText (some raw)) = .failed rest) : t.normalize raw = raw := by
  rw [normalize]
  cases hp : Presence.classify t.emptyText (some raw) with
  | null => exact absurd hp hn
  | absent | blank v | present v =>
    rw [hp] at h
    simp only [h]

def Alongside (p' p : Presence) : Prop := p' = p ∨ p'.kind = .present ∧ p.kind = .present

structure Completes (s t : DeclaredType) : Prop where
  name : s.name = t.name
  presence : ∀ raw : Option Value,
    Alongside (.classify s.emptyText (raw.map t.normalize)) (.classify t.emptyText raw)
  coerce : ∀ raw : Option Value, s.coerce (.classify s.emptyText (raw.map t.normalize))
    = t.coerce (.classify t.emptyText raw)

def Scalar (kind : ValueKind) : Prop := kind = .boolean ∨ kind = .integer ∨ kind = .float

lemma classify_of_scalar (hk : Scalar kind) (hw : w.kind = kind) (e : EmptyText) :
    Presence.classify e (some w) = .present w := by
  subst hw
  cases w with
  | boolean b | integer n | float x => rfl
  | null | string s | array items | map entries => simp [Scalar, Value.kind] at hk

lemma scalar_normalized {text strict : Value → Option Value} (hext : Extends text strict)
    (hkind : Scalar kind) (hreads : Reads kind text) (hfix : ∀ w, w.kind = kind → strict w = some w)
    (name typePredicate : String) (raw : Value) :
    let s := scalar name typePredicate .blank strict
    let t := scalar name typePredicate .null text
    Alongside (.classify .blank (some (t.normalize raw))) (.classify .null (some raw)) ∧
      s.coerce (.classify .blank (some (t.normalize raw)))
        = t.coerce (.classify .null (some raw)) := by
  intro s t
  cases hp : Presence.classify .null (some raw) with
  | absent =>
    have hnone : some raw = none := Presence.kind_classify_absent_iff.mp (congrArg Presence.kind hp)
    exact absurd hnone (Option.some_ne_none raw)
  | null =>
    have hn : t.normalize raw = .null := normalize_of_null hp
    rw [hn]
    exact ⟨.inl rfl, rfl⟩
  | blank v =>
    obtain rfl : raw = v := Option.some.inj (Presence.raw_of_blank hp)
    have hc : t.coerce (.classify .null (some raw)) = .failed (some raw) := by rw [hp]; rfl
    have hnull : Presence.classify .null (some raw) ≠ .null := by simp [hp]
    have hn : t.normalize raw = raw := normalize_of_failed hnull hc
    rw [hn, Presence.classify_of_blank hp]
    exact ⟨.inl rfl, rfl⟩
  | present v =>
    obtain rfl : raw = v := Option.some.inj (Presence.raw_of_present hp)
    cases hw : text raw with
    | none =>
      have hc : t.coerce (.present raw) = .failed (some raw) := by simp [t, coerce, coerce.typed, scalar, hw]
      have hnull : Presence.classify .null (some raw) ≠ .null := by simp [hp]
      have hn : t.normalize raw = raw := normalize_of_failed hnull (hp ▸ hc)
      have hstrict : strict raw = none := by
        refine Option.eq_none_iff_forall_ne_some.mpr fun w hs => ?_
        rw [hext.parse hs] at hw
        cases hw
      rw [hn, Presence.classify_of_present hp, hc]
      exact ⟨.inl rfl, by simp [s, coerce, coerce.typed, scalar, hstrict]⟩
    | some w =>
      have hc : t.coerce (.present raw) = .coerced w name := by
        simp [t, coerce, coerce.typed, scalar, hw]
      have hn : t.normalize raw = w := normalize_of_coerced (hp ▸ hc)
      have hwk : w.kind = kind := hreads raw w hw
      rw [hn, classify_of_scalar hkind hwk, hc]
      exact ⟨.inr ⟨rfl, rfl⟩, by simp [s, coerce, coerce.typed, scalar, hfix w hwk]⟩

lemma completes_of {s t : DeclaredType} (hname : s.name = t.name)
    (h : ∀ raw : Value,
      Alongside (.classify s.emptyText (some (t.normalize raw))) (.classify t.emptyText (some raw)) ∧
        s.coerce (.classify s.emptyText (some (t.normalize raw)))
          = t.coerce (.classify t.emptyText (some raw))) : Completes s t where
  name := hname
  presence raw := by
    cases raw with
    | none => exact .inl rfl
    | some raw => exact (h raw).1
  coerce raw := by
    cases raw with
    | none => rfl
    | some raw => exact (h raw).2

lemma normalize_eq_self {t : DeclaredType} (he : t.emptyText = .blank)
    (hid : ∀ v w, t.parse v = some w → w = v) (raw : Value) : t.normalize raw = raw := by
  by_cases hn : (Presence.classify t.emptyText (some raw)).kind = .null
  · have hraw : raw = .null := by
      have hcases := Presence.kind_classify_null_iff.mp hn
      simpa [he] using hcases
    rw [hraw]
    exact normalize_of_null rfl
  · cases hc : t.coerce (.classify t.emptyText (some raw)) with
    | failed rest => exact normalize_of_failed (fun hp => hn (congrArg Presence.kind hp)) hc
    | coerced w name =>
      have hcoerced : (t.coerce (.classify t.emptyText (some raw))).isCoerced = true := by rw [hc]; rfl
      obtain ⟨v, w', hv, hw, hcw⟩ := exists_of_isCoerced hcoerced
      obtain rfl : raw = v := Option.some.inj ((Presence.value_classify hn).symm.trans hv)
      obtain ⟨rfl, _⟩ := TypedValue.coerced.inj (hcw.symm.trans hc)
      rw [normalize_of_coerced hc, hid raw _ hw]

lemma completes_self {t : DeclaredType} (he : t.emptyText = .blank)
    (hid : ∀ v w, t.parse v = some w → w = v) : Completes t t := by
  apply completes_of rfl
  intro raw
  rw [normalize_eq_self he hid]
  exact ⟨.inl rfl, rfl⟩

lemma completes_blankable : ∀ t ∈ blankableTypes, Completes t t := by
  simp only [blankableTypes, List.forall_mem_cons]
  refine ⟨completes_self rfl ?_, completes_self rfl ?_, completes_self rfl ?_,
    List.forall_mem_nil _⟩
  · intro v w hw
    obtain ⟨s, hs, rfl⟩ := Option.map_eq_some_iff.mp hw
    cases v <;> simp_all [Value.string?]
  · intro v w hw
    obtain ⟨items, hi, rfl⟩ := Option.map_eq_some_iff.mp hw
    cases v <;> simp_all [Value.array?]
  · intro v w hw
    obtain ⟨entries, he, rfl⟩ := Option.map_eq_some_iff.mp hw
    cases v <;> simp_all [Value.map?]

lemma completes_scalar {text strict : Value → Option Value} (hext : Extends text strict)
    (hkind : Scalar kind) (hreads : Reads kind text) (hfix : ∀ w, w.kind = kind → strict w = some w)
    (name typePredicate : String) :
    Completes (scalar name typePredicate .blank strict) (scalar name typePredicate .null text) :=
  completes_of rfl (scalar_normalized hext hkind hreads hfix name typePredicate)

lemma strictInteger_self (hw : w.kind = .integer) : strictInteger w = some w := by
  cases w <;> first | rfl | cases hw

lemma strictFloat_self (hw : w.kind = .float) : strictFloat w = some w := by
  cases w <;> first | rfl | cases hw

lemma strictBoolean_self (hw : w.kind = .boolean) : strictBoolean w = some w := by
  cases w <;> first | rfl | cases hw

lemma forall₂_completes : List.Forall₂ Completes (ofStyle .json) (ofStyle .params) := by
  have float (name typePredicate : String) :=
    completes_scalar textFloat_extends (.inr (.inr rfl)) reads_textFloat
      (fun _ => strictFloat_self) name typePredicate
  exact .cons (completes_scalar textInteger_extends (.inr (.inl rfl)) reads_textInteger
      (fun _ => strictInteger_self) "integer" "int?") <|
    .cons (float "float" "float?") <| .cons (float "decimal" "decimal?") <|
    .cons (completes_scalar textBoolean_extends (.inl rfl) reads_textBoolean
      (fun _ => strictBoolean_self) "bool" "bool?") <|
    List.forall₂_same.mpr completes_blankable

end DeclaredType

lemma TypeRegistry.completes_get? (name : String) :
    Option.Rel DeclaredType.Completes (json.get? name) (params.get? name) :=
  rel_ofList (fun _ _ h => h.name) DeclaredType.forall₂_completes name

lemma DeclaredType.Alongside.kind {p' p : Presence} (h : Alongside p' p) : p'.kind = p.kind := by
  rcases h with rfl | ⟨h', h⟩
  · rfl
  · rw [h', h]

namespace Rule

def normalize (rule : Rule) (raw : Value) : Value :=
  match rule.declaredType with
  | some t => t.normalize raw
  | none => raw

variable {r s : Rule} {p' p : Presence} {input input' : Input}

lemma unfilled_congr (hq : r.quantifier = s.quantifier) (hk : p'.kind = p.kind) :
    r.Unfilled p' ↔ s.Unfilled p := by
  rw [Unfilled, Unfilled, hq, hk]

lemma excused_congr (hr : r.requiredness = s.requiredness) (hq : r.quantifier = s.quantifier)
    (hk : p'.kind = p.kind) : r.Excused p' ↔ s.Excused p := by
  rw [Excused, Excused, hr, hq, hk]

lemma forwarded_alongside {a b : DeclaredType} (hr : r.declaredType = some a)
    (hs : s.declaredType = some b) (hq : r.quantifier = s.quantifier)
    (hp : DeclaredType.Alongside p' p) (hc : a.coerce p' = b.coerce p) :
    r.forwarded p' = s.forwarded p := by
  have hu : r.Unfilled p' ↔ s.Unfilled p := unfilled_congr hq hp.kind
  rw [forwarded, forwarded, hr, hs]
  by_cases h : s.Unfilled p
  · -- nothing is read, and as no value is there the two are the same
    obtain rfl : p' = p := hp.resolve_right fun hboth => by
      have hthere : p.kind = .present := hboth.2
      rcases h.2 with hn | hb
      · simp [hthere] at hn
      · simp [hthere] at hb
    simp only [hu.mpr h, h, if_true]
  · simp only [mt hu.mp h, h, if_false, hc]

lemma typeFailures_alongside {a b : DeclaredType} (hr : r.declaredType = some a)
    (hs : s.declaredType = some b) (hn : a.name = b.name) (hq : r.quantifier = s.quantifier)
    (hk : p'.kind = p.kind) (hc : a.coerce p' = b.coerce p) :
    r.typeFailures p' = s.typeFailures p := by
  have hu : r.Unfilled p' ↔ s.Unfilled p := unfilled_congr hq hk
  simp only [typeFailures, hr, hs, hu, hc, hn]

lemma evaluate_alongside (h : r.Stricter s) {a b : DeclaredType} (hr : r.declaredType = some a)
    (hs : s.declaredType = some b) (hn : a.name = b.name)
    (hp' : input'.classify r.key r.emptyText = p') (hp : input.classify s.key s.emptyText = p)
    (halong : DeclaredType.Alongside p' p) (hc : a.coerce p' = b.coerce p) :
    Pipeline.standard.evaluate r input' = Pipeline.standard.evaluate s input := by
  have hpresence : presenceFailures p' = presenceFailures p := by
    rw [presenceFailures, presenceFailures, halong.kind]
  have hquantifier : r.quantifierFailures p' = s.quantifierFailures p := by
    simp only [quantifierFailures, unfilled_congr h.quantifier halong.kind]
  have htype : r.typeFailures p' = s.typeFailures p :=
    typeFailures_alongside hr hs hn h.quantifier halong.kind hc
  have hsubject : r.forwarded p' = s.forwarded p :=
    forwarded_alongside hr hs h.quantifier halong hc
  have hpredicates (subject : Option Value) :
      r.predicateFailures subject = s.predicateFailures subject := by
    rw [predicateFailures, predicateFailures, h.predicates]
  have hexcused : r.Excused p' ↔ s.Excused p :=
    excused_congr h.requiredness h.quantifier halong.kind
  simp only [Pipeline.evaluate_standard, subject, hp', hp, hpresence, hquantifier, htype, hsubject,
    hpredicates, hexcused]

lemma evaluate_normalized (h : r.Stricter s)
    (hc : Option.Rel DeclaredType.Completes r.declaredType s.declaredType)
    (hget : input'.get? s.key = (input.get? s.key).map s.normalize) :
    Pipeline.standard.evaluate r input' = Pipeline.standard.evaluate s input := by
  have hrules := h
  obtain ⟨key, requiredness, quantifier, type, predicates⟩ := r
  obtain ⟨key', requiredness', quantifier', type', predicates'⟩ := s
  obtain ⟨rfl, rfl, rfl, _, rfl⟩ := h
  cases hc with
  | none =>
    apply Pipeline.evaluate_congr
    rw [hget]
    exact Option.map_id' (x := input.get? key)
  | @some a b hab =>
    refine evaluate_alongside hrules rfl rfl hab.name rfl rfl ?_ ?_
    · rw [Input.classify, hget]
      exact hab.presence (input.get? key)
    · rw [Input.classify, hget]
      exact hab.coerce (input.get? key)

end Rule

namespace Schema

def normalize (schema : Schema) (input : Input) : Input :=
  ⟨input.values.mapValues fun key raw => (schema.rule? key).elim raw fun rule => rule.normalize raw⟩

lemma rule?_of_mem {schema : Schema} (hn : (schema.rules.map Rule.key).Nodup) {rule : Rule}
    (hrule : rule ∈ schema.rules) : schema.rule? rule.key = some rule := by
  have hfound : (schema.rule? rule.key).isSome = true := by
    rw [rule?, List.find?_isSome]
    exact ⟨rule, hrule, beq_self_eq_true _⟩
  obtain ⟨found, hf⟩ := Option.isSome_iff_exists.mp hfound
  have hkey : (found.key == rule.key) = true :=
    List.find?_some (p := fun r : Rule => r.key == rule.key) hf
  have hmem : found ∈ schema.rules := List.mem_of_find?_eq_some hf
  rw [hf, List.inj_on_of_nodup_map hn hmem hrule (eq_of_beq hkey)]

lemma get?_normalize {schema : Schema} (hn : (schema.rules.map Rule.key).Nodup) {rule : Rule}
    (hrule : rule ∈ schema.rules) (input : Input) :
    (schema.normalize input).get? rule.key = (input.get? rule.key).map rule.normalize := by
  rw [normalize, Input.get?, OrderedMap.get?_mapValues, rule?_of_mem hn hrule]
  rfl

end Schema

lemma ruleOf_completes (d : KeyDeclaration) : Option.Rel DeclaredType.Completes
    (ruleOf Config.json d).declaredType (ruleOf Config.params d).declaredType := by
  change Option.Rel DeclaredType.Completes (declaredType Config.json d) (declaredType Config.params d)
  rw [declaredType, declaredType]
  cases d.type with
  | none => exact .none
  | some name => exact TypeRegistry.completes_get? name

theorem normalized_as_document (declaration : SchemaDeclaration) (parameters : Schema)
    (h : Schema.compile declaration Config.params = .ok parameters) :
    ∃ document, Schema.compile declaration Config.json = .ok document ∧ ∀ input : Input,
      document.validate (parameters.normalize input) = parameters.validate input ∧
        ((parameters.validate input).successful = true →
          (document.validate (parameters.normalize input)).successful = true) := by
  obtain ⟨document, hd⟩ := alike_styles.symm.compiles h
  have hn : (parameters.rules.map Rule.key).Nodup := Schema.keys_nodup h
  refine ⟨document, hd, fun input => ?_⟩
  have hsame : document.validate (parameters.normalize input) = parameters.validate input := by
    obtain ⟨_, rfl⟩ := schema_eq_ok_iff.mp hd
    obtain ⟨_, rfl⟩ := schema_eq_ok_iff.mp h
    rw [Schema.validate, Schema.validate, List.map_map, List.map_map]
    refine congrArg (Outcome.ofRecords _) (List.map_congr_left fun d hmem => ?_)
    have hrule : ruleOf Config.params d ∈ declaration.keys.map (ruleOf Config.params) :=
      List.mem_map_of_mem hmem
    have hevaluate := Rule.evaluate_normalized (ruleOf_stricter d) (ruleOf_completes d)
      (Schema.get?_normalize hn hrule input)
    exact congrArg (Prod.mk d.key) hevaluate
  exact ⟨hsame, fun hvalid => hsame ▸ hvalid⟩

theorem normalized_as_document_form :
    let declaration : SchemaDeclaration :=
      ⟨[((KeyDeclaration.required "age").filled "integer").check "gteq?" (.integer 18),
        (KeyDeclaration.required "news").maybe "bool", (KeyDeclaration.optional "name").value "string",
        KeyDeclaration.required "token"]⟩
    let input := Input.ofEntries
      [("name", .string ""), ("age", .string "+20"), ("token", .string ""), ("news", .string "")]
    ∃ parameters document, Schema.compile declaration Config.params = .ok parameters ∧
      Schema.compile declaration Config.json = .ok document ∧
      (parameters.normalize input).values.entries
        = [("name", .string ""), ("age", .integer 20), ("token", .string ""), ("news", .null)] ∧
      (parameters.validate input).successful = true ∧
      (document.validate (parameters.normalize input)).successful = true := by
  intro declaration input
  have hvalid : (Schema.compile declaration Config.params).map
      (fun schema => (schema.validate input).successful) = .ok true := by decide +kernel
  obtain ⟨parameters, h⟩ : ∃ schema, Schema.compile declaration Config.params = .ok schema :=
    ⟨_, rfl⟩
  have hentries : (Schema.compile declaration Config.params).map
      (fun schema => (schema.normalize input).values.entries)
        = .ok [("name", .string ""), ("age", .integer 20), ("token", .string ""), ("news", .null)] := by
    rfl
  rw [h] at hvalid hentries
  obtain ⟨document, hd, hall⟩ := normalized_as_document declaration parameters h
  have hsuccess : (parameters.validate input).successful = true := Except.ok.inj hvalid
  exact ⟨parameters, document, h, hd, Except.ok.inj hentries, hsuccess, (hall input).2 hsuccess⟩

end Conform
