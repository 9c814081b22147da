import Conform.Proofs.DeclaredType.Builtin
import Conform.Proofs.Predicate.Complement
import Conform.Proofs.Validation.Acceptance
import Conform.Proofs.Validation.Independence

/-! Keys that ask for a predicate and for its opposite. No value has both, so such a key passes only
where its declaration lets it off before its predicates are looked at. -/

namespace Conform

open Compile

variable {rule : Rule} {input : Input} {style : InputStyle} {d : KeyDeclaration} {c : Complement}
  {args : List Value}

lemma Pipeline.evaluate_contradicted {r s : PredicateRule} (hr : r ∈ rule.predicates)
    (hs : s ∈ rule.predicates) (h : ∀ subject, ¬ (r.holds subject = true ∧ s.holds subject = true)) :
    Pipeline.standard.evaluate rule input = [] ↔
      rule.Excused (input.classify rule.key rule.emptyText) := by
  refine Pipeline.evaluate_eq_nil_iff.trans (or_iff_left fun hp => ?_)
  exact h _ ⟨hp.holds r hr, hp.holds s hs⟩

lemma DeclaredType.typePredicate_ne (style : InputStyle) :
    ∀ t ∈ ofStyle style, ∀ c ∈ Complement.all, c.left ≠ t.typePredicate ∧ c.right ≠ t.typePredicate := by
  cases style <;> decide

namespace Compile

lemma declaredType_mem {t : DeclaredType} (h : declaredType (Config.forStyle style) d = some t) :
    t ∈ DeclaredType.ofStyle style := by
  obtain ⟨name, _, ht⟩ := Option.bind_eq_some_iff.mp h
  have hlist : (TypeRegistry.ofList (DeclaredType.ofStyle style)).get? name = some t :=
    TypeRegistry.forStyle_eq_ofList style ▸ ht
  exact TypeRegistry.mem_of_get?_ofList hlist

lemma keeps_opposites (hc : c ∈ Complement.all) {q : PredicateDeclaration}
    (hq : q.name = c.left ∨ q.name = c.right) :
    keeps (declaredType (Config.forStyle style) d) q = true := by
  cases ht : declaredType (Config.forStyle style) d with
  | none => rfl
  | some t =>
    obtain ⟨hleft, hright⟩ := DeclaredType.typePredicate_ne style t (declaredType_mem ht) c hc
    rw [keeps, Option.all_some, bne_iff_ne]
    rcases hq with hq | hq
    · rwa [hq]
    · rwa [hq]

lemma exists_rule_of_resolves {config : Config} {q : PredicateDeclaration} (hq : q ∈ d.predicates)
    (hkeeps : keeps (declaredType config d) q = true) (hresolves : Resolves config q) :
    ∃ r ∈ (ruleOf config d).predicates, ∀ subject,
      r.holds subject = config.predicates.holds q.name subject q.args := by
  obtain ⟨p, hp, _⟩ := hresolves
  refine ⟨⟨q.name, q.args, p.parameters, p.check⟩, ?_, fun subject => ?_⟩
  · refine List.mem_filterMap.mpr ⟨q, List.mem_filter.mpr ⟨hq, hkeeps⟩, ?_⟩
    rw [predicateRule?, hp, Option.map_some]
  · rw [PredicateRegistry.holds, hp, Option.any_some]
    rfl

lemma evaluate_opposites (hd : Compilable (Config.forStyle style) d) (hc : c ∈ Complement.all)
    (hleft : ⟨c.left, args⟩ ∈ d.predicates) (hright : ⟨c.right, args⟩ ∈ d.predicates) :
    Pipeline.standard.evaluate (ruleOf (Config.forStyle style) d) input = [] ↔
      (ruleOf (Config.forStyle style) d).Excused
        (input.classify d.key (ruleOf (Config.forStyle style) d).emptyText) := by
  obtain ⟨r, hr, hrholds⟩ :=
    exists_rule_of_resolves hleft (keeps_opposites hc (.inl rfl)) (hd.resolves _ hleft)
  obtain ⟨s, hs, hsholds⟩ :=
    exists_rule_of_resolves hright (keeps_opposites hc (.inr rfl)) (hd.resolves _ hright)
  apply Pipeline.evaluate_contradicted hr hs
  intro subject
  rw [hrholds, hsholds]
  exact (Complement.opposed_of_mem hc).exclusive subject args

end Compile

/-- Opposites never hold together, and one of them holds on their domain: integers are compared
exactly, values are equal or not, and stand in a list or not, an integer is odd or even, a boolean true
or false. Neither holds where the key is absent. To stand in a list is to equal one of its items. A key
that declares two opposites is rejected unless it is excused for being absent or null. -/
theorem opposites_partition :
    let holds := PredicateRegistry.builtin.holds
    (∀ c ∈ Complement.all, Opposed (holds c.left) (holds c.right) c.Domain) ∧
    (∀ (m n : Int64) (rest : List Value),
      holds "lt?" (some (.integer m)) (.integer n :: rest) = decide (m.toInt < n.toInt) ∧
      holds "gteq?" (some (.integer m)) (.integer n :: rest) = decide (n.toInt ≤ m.toInt) ∧
      holds "gt?" (some (.integer m)) (.integer n :: rest) = decide (n.toInt < m.toInt) ∧
      holds "lteq?" (some (.integer m)) (.integer n :: rest) = decide (m.toInt ≤ n.toInt)) ∧
    (∀ (n : Int64) (args : List Value),
      holds "even?" (some (.integer n)) args = decide (2 ∣ n.toInt)) ∧
    (∀ (subject : Option Value) (items rest : List Value), (∀ v ∈ subject, v.NamesDistinct) →
      (∀ item ∈ items, item.NamesDistinct) →
      (holds "included_in?" subject (.array items :: rest) = true ↔
        ∃ item ∈ items, holds "eql?" subject [item] = true)) ∧
    ∀ (style : InputStyle) (declaration : SchemaDeclaration) (schema : Schema),
      Schema.compile declaration (Config.forStyle style) = .ok schema →
      ∀ d ∈ declaration.keys, ∀ c ∈ Complement.all, ∀ args,
        ⟨c.left, args⟩ ∈ d.predicates → ⟨c.right, args⟩ ∈ d.predicates → ∀ input : Input,
          let p := input.classify d.key (ruleOf (Config.forStyle style) d).emptyText
          let excused := p.kind = .absent ∧ d.requiredness = .optional ∨
            p.kind = .null ∧ d.quantifier = .maybe
          ((schema.validate input).failuresFor d.key = [] ↔ excused) ∧
            (¬ excused → (schema.validate input).successful = false) := by
  intro holds
  refine ⟨fun c hc => Complement.opposed_of_mem hc, fun m n rest => ?_,
    fun n args => Complement.even_integer n args,
    fun subject items rest hv hitems => Complement.includedIn_iff_equal hv hitems rest, ?_⟩
  · exact ⟨Predicate.lessThan_integers m n rest, Predicate.atLeast_integers m n rest,
      Predicate.greaterThan_integers m n rest, Predicate.atMost_integers m n rest⟩
  · intro style declaration schema h d hmem c hc args hleft hright input p excused
    have hd := (schema_eq_ok_iff.mp h).1.compilable d hmem
    have hexcused : Pipeline.standard.evaluate (ruleOf (Config.forStyle style) d) input = [] ↔ excused :=
      evaluate_opposites hd hc hleft hright
    refine ⟨?_, fun hnot => ?_⟩
    · rw [Schema.failuresFor_of_mem h input hmem, keyFailures, List.map_eq_nil_iff, hexcused]
    · obtain ⟨_, rfl⟩ := schema_eq_ok_iff.mp h
      rw [Bool.eq_false_iff, Ne, Schema.successful_iff]
      intro hall
      exact hnot (hexcused.mp (hall _ (List.mem_map_of_mem hmem)))

theorem opposites_partition_bound :
    let d := (((KeyDeclaration.optional "age").maybe "integer").check "lt?" (.integer 5)).check "gteq?"
      (.integer 5)
    let point := Value.map [("x", .integer 1), ("y", .null)]
    let items := [.null, Value.map [("y", .null), ("x", .integer 1)]]
    ∃ schema, Schema.compile ⟨[d]⟩ Config.params = .ok schema ∧
      (schema.validate (Input.ofEntries [("age", .string "7")])).successful = false ∧
      (schema.validate (Input.ofEntries [("age", .string "")])).failuresFor "age" = [] ∧
      (schema.validate Input.empty).failuresFor "age" = [] ∧
      PredicateRegistry.builtin.holds "included_in?" (some point) [.array items] = true := by
  intro d point items
  obtain ⟨_, _, _, hincluded, hrejected⟩ := opposites_partition
  obtain ⟨schema, h⟩ : ∃ schema, Schema.compile ⟨[d]⟩ Config.params = .ok schema := ⟨_, rfl⟩
  have hall := hrejected .params ⟨[d]⟩ schema h d List.mem_cons_self ⟨"lt?", "gteq?", _⟩
    List.mem_cons_self [.integer 5] (by simp [d, KeyDeclaration.check, KeyDeclaration.checkArgs])
    (by simp [d, KeyDeclaration.check, KeyDeclaration.checkArgs])
  have hpoint : ∀ v ∈ some point, v.NamesDistinct := by
    rintro v ⟨⟩
    decide
  refine ⟨schema, h, (hall _).2 (by decide +kernel), (hall _).1.mpr (by decide +kernel),
    (hall _).1.mpr (by decide), (hincluded (some point) items [] hpoint (by decide)).mpr ?_⟩
  exact ⟨_, List.mem_cons_of_mem _ List.mem_cons_self, by decide⟩

end Conform
