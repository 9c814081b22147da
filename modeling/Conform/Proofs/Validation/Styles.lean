import Conform.Proofs.Compile.Agreement
import Conform.Proofs.DeclaredType.Builtin
import Conform.Proofs.Validation.Acceptance

/-! Documents against parameters. The two default configurations compile the same declarations, and
what is valid as a document is valid as parameters: a type of documents that accepts a value hands
on what the type for parameters hands on, and the empty text, on which the two disagree about what
is there, is accepted by no type of documents but that of strings. -/

namespace Conform

open Compile

lemma map_eq_of_rel {α β : Type} {R : α → α → Prop} {f : α → β} (hf : ∀ a b, R a b → f a = f b)
    {x y : Option α} (h : Option.Rel R x y) : x.map f = y.map f := by
  cases h with
  | some hab => exact congrArg some (hf _ _ hab)
  | none => rfl

lemma alike_styles : Alike Config.json Config.params where
  types name := map_eq_of_rel (fun _ _ h => h.typePredicate) (TypeRegistry.stricter_get? name)
  predicates := rfl
  templates := rfl

structure Rule.Stricter (r s : Rule) : Prop where
  key : r.key = s.key
  requiredness : r.requiredness = s.requiredness
  quantifier : r.quantifier = s.quantifier
  types : Option.Rel DeclaredType.Stricter r.declaredType s.declaredType
  predicates : r.predicates = s.predicates

lemma Rule.Stricter.refl (rule : Rule) : rule.Stricter rule where
  key := rfl
  requiredness := rfl
  quantifier := rfl
  types := by
    cases rule.declaredType with
    | none => exact .none
    | some t => exact .some (.refl t)
  predicates := rfl

lemma Rule.Excused.of_stricter {r s : Rule} (h : r.Stricter s) {t t' : DeclaredType}
    (ht : t.Stricter t') {raw : Option Value} (he : r.Excused (.classify t.emptyText raw)) :
    s.Excused (.classify t'.emptyText raw) := by
  rcases he with ⟨ha, ho⟩ | ⟨hn, hm⟩
  · rw [Presence.kind_classify_absent_iff] at ha
    exact .inl ⟨Presence.kind_classify_absent_iff.mpr ha, h.requiredness ▸ ho⟩
  · rw [Presence.kind_classify_null_iff] at hn
    exact .inr ⟨Presence.kind_classify_null_iff.mpr (hn.imp_right (And.imp_right ht.emptyText)),
      h.quantifier ▸ hm⟩

lemma Rule.Satisfied.of_stricter {r s : Rule} (h : r.Stricter s) {t t' : DeclaredType}
    (hr : r.declaredType = some t) (hs : s.declaredType = some t') (ht : t.Stricter t')
    {raw : Option Value} (hp : r.Satisfied (.classify t.emptyText raw)) :
    s.Satisfied (.classify t'.emptyText raw) := by
  obtain ⟨hclassify, hcoerce⟩ := ht.coerced raw (hp.coerced t hr)
  have hfilled : ¬ s.Unfilled (.classify t.emptyText raw) := by
    rw [Unfilled, ← h.quantifier]
    exact hp.filled
  have hforwarded : s.forwarded (.classify t.emptyText raw)
      = r.forwarded (.classify t.emptyText raw) := by
    simp only [forwarded, hr, hs, hp.filled, hfilled, hcoerce, if_false]
  rw [hclassify]
  refine ⟨hp.there, hfilled, fun u hu => ?_, fun q hq => ?_⟩
  · obtain rfl : t' = u := Option.some.inj (hs.symm.trans hu)
    rw [hcoerce]
    exact hp.coerced t hr
  · rw [hforwarded]
    exact hp.holds q (h.predicates ▸ hq)

lemma Rule.Stricter.accepts {r s : Rule} (h : r.Stricter s) {input : Input}
    (hnil : Pipeline.standard.evaluate r input = []) : Pipeline.standard.evaluate s input = [] := by
  obtain ⟨key, requiredness, quantifier, type, predicates⟩ := r
  obtain ⟨key', requiredness', quantifier', type', predicates'⟩ := s
  have hrules := h
  obtain ⟨rfl, rfl, rfl, htypes, rfl⟩ := h
  cases htypes with
  | none => exact hnil
  | some ht =>
    -- what excuses a key of documents excuses it as a parameter, and likewise what satisfies it
    rw [Pipeline.evaluate_eq_nil_iff] at hnil ⊢
    exact hnil.imp (Rule.Excused.of_stricter hrules ht)
      (Rule.Satisfied.of_stricter hrules rfl rfl ht)

lemma ruleOf_stricter (d : KeyDeclaration) :
    (ruleOf Config.json d).Stricter (ruleOf Config.params d) where
  key := rfl
  requiredness := rfl
  quantifier := rfl
  types := by
    change Option.Rel DeclaredType.Stricter (declaredType Config.json d)
      (declaredType Config.params d)
    rw [declaredType, declaredType]
    cases d.type with
    | none => exact .none
    | some name => exact TypeRegistry.stricter_get? name
  predicates := by
    change (remaining Config.json d).filterMap (predicateRule? Config.json)
      = (remaining Config.params d).filterMap (predicateRule? Config.params)
    rw [alike_styles.remaining_eq, alike_styles.predicateRule?_eq]

theorem json_stricter_than_params (declaration : SchemaDeclaration) :
    ((∃ schema, Schema.compile declaration Config.json = .ok schema) ↔
        ∃ schema, Schema.compile declaration Config.params = .ok schema) ∧
      (∀ e, Schema.compile declaration Config.json = .error e ↔
        Schema.compile declaration Config.params = .error e) ∧
      ∀ document parameters : Schema,
        Schema.compile declaration Config.json = .ok document →
        Schema.compile declaration Config.params = .ok parameters → ∀ input : Input,
          (document.validate input).successful = true →
            (parameters.validate input).successful = true := by
  refine ⟨⟨fun ⟨_, h⟩ => alike_styles.compiles h, fun ⟨_, h⟩ => alike_styles.symm.compiles h⟩,
    fun e => ⟨alike_styles.fails, alike_styles.symm.fails⟩, ?_⟩
  intro document parameters hd hp input hvalid
  obtain ⟨_, rfl⟩ := schema_eq_ok_iff.mp hd
  obtain ⟨_, rfl⟩ := schema_eq_ok_iff.mp hp
  simp only [Schema.successful_iff, List.forall_mem_map] at hvalid ⊢
  exact fun d hmem => (ruleOf_stricter d).accepts (hvalid d hmem)

theorem json_stricter_than_params_number :
    let declaration : SchemaDeclaration :=
      ⟨[((KeyDeclaration.required "age").filled "integer").check "gteq?" (.integer 18)]⟩
    let number := Input.ofEntries [("age", .integer 20)]
    let text := Input.ofEntries [("age", .string "20")]
    ∃ document parameters, Schema.compile declaration Config.json = .ok document ∧
      Schema.compile declaration Config.params = .ok parameters ∧
      (document.validate number).successful = true ∧
      (parameters.validate number).successful = true ∧
      (document.validate text).successful = false ∧
      (parameters.validate text).successful = true := by
  intro declaration number text
  have hjson : (Schema.compile declaration Config.json).map (fun schema =>
      ((schema.validate number).successful, (schema.validate text).successful))
      = .ok (true, false) := by decide +kernel
  have hparams : (Schema.compile declaration Config.params).map (fun schema =>
      (schema.validate text).successful) = .ok true := by decide +kernel
  obtain ⟨document, hd⟩ : ∃ schema, Schema.compile declaration Config.json = .ok schema := ⟨_, rfl⟩
  obtain ⟨parameters, hp⟩ : ∃ schema, Schema.compile declaration Config.params = .ok schema :=
    ⟨_, rfl⟩
  rw [hd] at hjson
  rw [hp] at hparams
  obtain ⟨hnumber, htext⟩ := Prod.mk.inj (Except.ok.inj hjson)
  exact ⟨document, parameters, hd, hp, hnumber,
    (json_stricter_than_params declaration).2.2 document parameters hd hp number hnumber, htext,
    Except.ok.inj hparams⟩

end Conform
