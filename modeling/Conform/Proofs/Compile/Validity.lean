import Conform.Schema.Compile
import Mathlib.Data.List.Forall2
import Mathlib.Tactic.Common

/-! Which declarations compile, and to what. Validity is said about the declaration alone, without
the functions that look for faults. -/

namespace Conform.Compile

variable {config : Config} {d : KeyDeclaration} {q : PredicateDeclaration}

def declaredType (config : Config) (d : KeyDeclaration) : Option DeclaredType :=
  d.type.bind config.types.get?

def TypeKnown (config : Config) (d : KeyDeclaration) : Prop :=
  ∀ name, d.type = some name → ∃ t, config.types.get? name = some t

structure Applies (p : Predicate) (args : List Value) : Prop where
  arity : args.length = p.arity
  accepted : ∀ (i : Nat) (parameter : Parameter) (v : Value),
    p.parameters[i]? = some parameter → args[i]? = some v → parameter.kind.accepts v = true

def Resolves (config : Config) (q : PredicateDeclaration) : Prop :=
  ∃ p, config.predicates.get? q.name = some p ∧ Applies p q.args

def keeps (type : Option DeclaredType) (q : PredicateDeclaration) : Bool :=
  type.all fun t => q.name != t.typePredicate

def remaining (config : Config) (d : KeyDeclaration) : List PredicateDeclaration :=
  d.predicates.filter (keeps (declaredType config d))

def demandedChecks (config : Config) (d : KeyDeclaration) : List Check :=
  (if d.requiredness = .required then [.keyPresence] else [])
    ++ (if d.quantifier = .filled then [.quantifier] else [])
    ++ (d.type.map Check.type).toList
    ++ (remaining config d).map fun q => .predicate q.name

structure Compilable (config : Config) (d : KeyDeclaration) : Prop where
  typeKnown : TypeKnown config d
  resolves : ∀ q ∈ d.predicates, Resolves config q
  templates : ∀ check ∈ demandedChecks config d, config.templates.has check = true

structure Valid (config : Config) (ds : List KeyDeclaration) : Prop where
  distinct : (ds.map KeyDeclaration.key).Nodup
  compilable : ∀ d ∈ ds, Compilable config d

structure Realizes (config : Config) (d : KeyDeclaration) (rule : Rule) : Prop where
  key : rule.key = d.key
  requiredness : rule.requiredness = d.requiredness
  quantifier : rule.quantifier = d.quantifier
  declaredType : rule.declaredType = declaredType config d
  typeName : rule.typeName = d.type
  predicates : rule.predicates.map (fun p => (p.name, p.args))
    = (remaining config d).map fun q => (q.name, q.args)
  resolved : ∀ r ∈ rule.predicates, ∃ p, config.predicates.get? r.name = some p
    ∧ Applies p r.args ∧ r.parameters = p.parameters ∧ r.check = p.check

def predicateRule? (config : Config) (q : PredicateDeclaration) : Option PredicateRule :=
  (config.predicates.get? q.name).map fun p => ⟨q.name, q.args, p.parameters, p.check⟩

def ruleOf (config : Config) (d : KeyDeclaration) : Rule :=
  ⟨d.key, d.requiredness, d.quantifier, declaredType config d,
    (remaining config d).filterMap (predicateRule? config)⟩

lemma resolveType_eq_ok_iff {type : Option DeclaredType} :
    resolveType config d.key d.type = .ok type ↔
      TypeKnown config d ∧ type = declaredType config d := by
  cases hd : d.type with
  | none => simp [resolveType, TypeKnown, declaredType, hd, eq_comm]
  | some name =>
    cases hn : config.types.get? name with
    | none => simp [resolveType, TypeKnown, hd, hn]
    | some t => simp [resolveType, TypeKnown, declaredType, hd, hn, eq_comm]

lemma badArgument?_eq_none_iff {parameters : List Parameter} {args : List Value} :
    badArgument? parameters args = none ↔
      ∀ (i : Nat) (parameter : Parameter) (v : Value),
        parameters[i]? = some parameter → args[i]? = some v → parameter.kind.accepts v = true := by
  simp only [badArgument?, List.find?_eq_none, List.mem_iff_getElem?, forall_exists_index,
    Prod.forall, List.getElem?_zip_eq_some, Bool.not_eq_true, Bool.not_eq_false', and_imp]
  exact ⟨fun h i parameter v => h parameter v i, fun h parameter v i => h i parameter v⟩

lemma resolvePredicate_eq_ok_iff {key : String} {r : PredicateRule} :
    resolvePredicate config key q = .ok r ↔
      Resolves config q ∧ predicateRule? config q = some r := by
  cases hp : config.predicates.get? q.name with
  | none => simp [resolvePredicate, Resolves, hp]
  | some p =>
    have hn : p.name = q.name := PredicateRegistry.name_of_get? hp
    have ha : Resolves config q ↔ Applies p q.args := by simp [Resolves, hp]
    rw [ha]
    by_cases hl : q.args.length = p.arity
    · cases hb : badArgument? p.parameters q.args with
      | none =>
        have happ : Applies p q.args := ⟨hl, badArgument?_eq_none_iff.mp hb⟩
        simp [resolvePredicate, predicateRule?, hp, hl, hb, hn, happ]
      | some bad =>
        have hnot : ¬ Applies p q.args := fun happ => by
          simp [badArgument?_eq_none_iff.mpr happ.accepted] at hb
        simp [resolvePredicate, hp, hl, hb, hnot]
    · have hnot : ¬ Applies p q.args := fun happ => hl happ.arity
      simp [resolvePredicate, hp, hl, hnot]

lemma Resolves.ok (key : String) (h : Resolves config q) :
    ∃ r, resolvePredicate config key q = .ok r ∧ predicateRule? config q = some r := by
  obtain ⟨p, hp, ha⟩ := h
  have hr : predicateRule? config q = some ⟨q.name, q.args, p.parameters, p.check⟩ := by
    simp [predicateRule?, hp]
  exact ⟨_, resolvePredicate_eq_ok_iff.mpr ⟨⟨p, hp, ha⟩, hr⟩, hr⟩

lemma folds_eq_not_keeps (type : Option DeclaredType) {r : PredicateRule}
    (hr : predicateRule? config q = some r) : folds type r = !keeps type q := by
  obtain ⟨p, _, rfl⟩ := Option.map_eq_some_iff.mp hr
  cases type <;> simp [folds, keeps, bne]

lemma resolvePredicates_cons_eq_ok_iff {key : String} {type : Option DeclaredType}
    {qs : List PredicateDeclaration} {rs : List PredicateRule} :
    resolvePredicates config key type (q :: qs) = .ok rs ↔
      ∃ r rs', resolvePredicate config key q = .ok r ∧
        resolvePredicates config key type qs = .ok rs' ∧
        (if folds type r then rs' else r :: rs') = rs := by
  cases hr : resolvePredicate config key q with
  | error e => simp [resolvePredicates, hr]
  | ok r =>
    cases hrs : resolvePredicates config key type qs with
    | error e => simp [resolvePredicates, hr, hrs]
    | ok rs' => simp [resolvePredicates, hr, hrs]

lemma resolvePredicates_eq_ok_iff {key : String} {type : Option DeclaredType}
    {qs : List PredicateDeclaration} {rs : List PredicateRule} :
    resolvePredicates config key type qs = .ok rs ↔
      (∀ q ∈ qs, Resolves config q) ∧
        rs = (qs.filter (keeps type)).filterMap (predicateRule? config) := by
  induction qs generalizing rs with
  | nil => simp [resolvePredicates, eq_comm]
  | cons q qs ih =>
    have hcons {r : PredicateRule} (hr : predicateRule? config q = some r) :
        (if folds type r then (qs.filter (keeps type)).filterMap (predicateRule? config)
          else r :: (qs.filter (keeps type)).filterMap (predicateRule? config)) =
          ((q :: qs).filter (keeps type)).filterMap (predicateRule? config) := by
      cases hk : keeps type q <;> simp [folds_eq_not_keeps type hr, hk, hr]
    rw [resolvePredicates_cons_eq_ok_iff, List.forall_mem_cons]
    constructor
    · rintro ⟨r, rs', hok, hrs, rfl⟩
      obtain ⟨hq, hr⟩ := resolvePredicate_eq_ok_iff.mp hok
      obtain ⟨hqs, rfl⟩ := ih.mp hrs
      exact ⟨⟨hq, hqs⟩, hcons hr⟩
    · rintro ⟨⟨hq, hqs⟩, rfl⟩
      obtain ⟨r, hok, hr⟩ := hq.ok key
      exact ⟨r, _, hok, ih.mpr ⟨hqs, rfl⟩, hcons hr⟩

lemma checkTemplates_eq_ok_iff {templates : TemplateSet} {rule rule' : Rule} :
    checkTemplates templates rule = .ok rule' ↔
      (∀ check ∈ possibleChecks rule, templates.has check = true) ∧ rule' = rule := by
  cases h : (possibleChecks rule).find? fun check => !templates.has check with
  | none =>
    have hall : ∀ check ∈ possibleChecks rule, templates.has check = true := by
      simpa using List.find?_eq_none.mp h
    rw [and_iff_right hall]
    simp [checkTemplates, h, eq_comm]
  | some check =>
    have hmem := List.mem_of_find?_eq_some h
    have hmiss : templates.has check = false := by simpa using List.find?_some h
    have hnot : ¬ ∀ check ∈ possibleChecks rule, templates.has check = true := fun hall => by
      simp [hall check hmem] at hmiss
    simp only [checkTemplates, h, hnot, reduceCtorEq, false_and]

lemma TypeKnown.typeName (h : TypeKnown config d) :
    (declaredType config d).map (·.name) = d.type := by
  cases hd : d.type with
  | none => simp [declaredType, hd]
  | some name =>
    obtain ⟨t, ht⟩ := h name hd
    simp [declaredType, hd, ht, TypeRegistry.name_of_get? ht]

lemma predicateNames_eq {qs : List PredicateDeclaration} (h : ∀ q ∈ qs, Resolves config q) :
    (qs.filterMap (predicateRule? config)).map (fun r => (r.name, r.args))
      = qs.map fun q => (q.name, q.args) := by
  induction qs with
  | nil => rfl
  | cons q qs ih =>
    obtain ⟨hq, hqs⟩ := List.forall_mem_cons.mp h
    obtain ⟨p, hp, _⟩ := hq
    simpa [predicateRule?, hp] using ih hqs

lemma resolves_of_mem_remaining (h : ∀ q ∈ d.predicates, Resolves config q) :
    ∀ q ∈ remaining config d, Resolves config q :=
  fun q hq => h q (List.mem_of_mem_filter hq)

lemma ruleOf_realizes (ht : TypeKnown config d) (hq : ∀ q ∈ d.predicates, Resolves config q) :
    Realizes config d (ruleOf config d) where
  key := rfl
  requiredness := rfl
  quantifier := rfl
  declaredType := rfl
  typeName := ht.typeName
  predicates := predicateNames_eq (resolves_of_mem_remaining hq)
  resolved := by
    intro r hr
    obtain ⟨q, hmem, hrule⟩ := List.mem_filterMap.mp hr
    obtain ⟨p, hp, ha⟩ := resolves_of_mem_remaining hq q hmem
    obtain rfl : ⟨q.name, q.args, p.parameters, p.check⟩ = r := by
      simpa [predicateRule?, hp] using hrule
    exact ⟨p, hp, ha, rfl, rfl⟩

lemma Compilable.realizes (h : Compilable config d) : Realizes config d (ruleOf config d) :=
  ruleOf_realizes h.typeKnown h.resolves

lemma Realizes.possibleChecks {rule : Rule} (h : Realizes config d rule) :
    possibleChecks rule = demandedChecks config d := by
  have hn : rule.predicateNames = (remaining config d).map (·.name) := by
    simpa [Rule.predicateNames, Function.comp_def] using congrArg (List.map Prod.fst) h.predicates
  simp [Compile.possibleChecks, demandedChecks, h.requiredness, h.quantifier, h.typeName, hn,
    Function.comp_def]

lemma compileKey_of_resolves (ht : TypeKnown config d)
    (hq : ∀ q ∈ d.predicates, Resolves config q) :
    compileKey config d = checkTemplates config.templates (ruleOf config d) := by
  have htype := resolveType_eq_ok_iff.mpr ⟨ht, rfl⟩
  have hrs : resolvePredicates config d.key (declaredType config d) d.predicates = .ok _ :=
    resolvePredicates_eq_ok_iff.mpr ⟨hq, rfl⟩
  simp only [compileKey, htype, hrs]
  rfl

lemma resolves_of_compileKey {rule : Rule} (h : compileKey config d = .ok rule) :
    TypeKnown config d ∧ ∀ q ∈ d.predicates, Resolves config q := by
  cases htype : resolveType config d.key d.type with
  | error e => simp [compileKey, htype] at h
  | ok type =>
    cases hrs : resolvePredicates config d.key type d.predicates with
    | error e => simp [compileKey, htype, hrs] at h
    | ok rs => exact ⟨(resolveType_eq_ok_iff.mp htype).1, (resolvePredicates_eq_ok_iff.mp hrs).1⟩

lemma compileKey_eq_ok_iff {rule : Rule} :
    compileKey config d = .ok rule ↔ Compilable config d ∧ rule = ruleOf config d := by
  have htemplates (ht : TypeKnown config d) (hq : ∀ q ∈ d.predicates, Resolves config q) :
      compileKey config d = .ok rule ↔
        (∀ check ∈ demandedChecks config d, config.templates.has check = true) ∧
          rule = ruleOf config d := by
    rw [compileKey_of_resolves ht hq, checkTemplates_eq_ok_iff,
      (ruleOf_realizes ht hq).possibleChecks]
  constructor
  · intro h
    obtain ⟨ht, hq⟩ := resolves_of_compileKey h
    obtain ⟨hall, rfl⟩ := (htemplates ht hq).mp h
    exact ⟨⟨ht, hq, hall⟩, rfl⟩
  · rintro ⟨hd, rfl⟩
    exact (htemplates hd.typeKnown hd.resolves).mpr ⟨hd.templates, rfl⟩

lemma valid_nil : Valid config [] := ⟨List.nodup_nil, by simp⟩

lemma valid_cons {ds : List KeyDeclaration} :
    Valid config (d :: ds) ↔ Compilable config d ∧ (∀ d' ∈ ds, d'.key ≠ d.key) ∧ Valid config ds := by
  constructor
  · rintro ⟨hd, hc⟩
    obtain ⟨hmem, hn⟩ := List.nodup_cons.mp hd
    obtain ⟨hk, hks⟩ := List.forall_mem_cons.mp hc
    exact ⟨hk, fun d' h' he => hmem (List.mem_map.mpr ⟨d', h', he⟩), hn, hks⟩
  · rintro ⟨hk, hne, hn, hks⟩
    refine ⟨List.nodup_cons.mpr ⟨fun hmem => ?_, hn⟩, List.forall_mem_cons.mpr ⟨hk, hks⟩⟩
    obtain ⟨d', h', he⟩ := List.mem_map.mp hmem
    exact hne d' h' he

lemma compileKeys_cons_eq_ok_iff {seen : List String} {ds : List KeyDeclaration}
    {rules : List Rule} :
    compileKeys config seen (d :: ds) = .ok rules ↔
      d.key ∉ seen ∧ ∃ rule rules', compileKey config d = .ok rule ∧
        compileKeys config (d.key :: seen) ds = .ok rules' ∧ rule :: rules' = rules := by
  by_cases hs : d.key ∈ seen
  · simp [compileKeys, hs]
  · cases hd : compileKey config d with
    | error e => simp [compileKeys, hs, hd]
    | ok rule =>
      cases hds : compileKeys config (d.key :: seen) ds with
      | error e => simp [compileKeys, hs, hd, hds]
      | ok rules' => simp [compileKeys, hs, hd, hds]

lemma compileKeys_eq_ok_iff {seen : List String} {ds : List KeyDeclaration} {rules : List Rule} :
    compileKeys config seen ds = .ok rules ↔
      Valid config ds ∧ (∀ d ∈ ds, d.key ∉ seen) ∧ rules = ds.map (ruleOf config) := by
  induction ds generalizing seen rules with
  | nil => simp [compileKeys, valid_nil, eq_comm]
  | cons d ds ih =>
    have hfresh : (∀ d' ∈ ds, d'.key ∉ d.key :: seen) ↔
        (∀ d' ∈ ds, d'.key ≠ d.key) ∧ ∀ d' ∈ ds, d'.key ∉ seen := by
      simp [not_or, forall_and]
    rw [compileKeys_cons_eq_ok_iff, valid_cons, List.forall_mem_cons]
    simp only [compileKey_eq_ok_iff, ih, hfresh]
    constructor
    · rintro ⟨hs, _, _, ⟨hd, rfl⟩, ⟨hv, ⟨hne, hn⟩, rfl⟩, rfl⟩
      exact ⟨⟨hd, hne, hv⟩, ⟨hs, hn⟩, rfl⟩
    · rintro ⟨⟨hd, hne, hv⟩, ⟨hs, hn⟩, rfl⟩
      exact ⟨hs, _, _, ⟨hd, rfl⟩, ⟨hv, ⟨hne, hn⟩, rfl⟩, rfl⟩

lemma compiles_iff_valid {ds : List KeyDeclaration} :
    (∃ rules, compileKeys config [] ds = .ok rules) ↔ Valid config ds := by
  simp [compileKeys_eq_ok_iff]

lemma schema_eq_ok_iff {declaration : SchemaDeclaration} {schema : Schema} :
    Schema.compile declaration config = .ok schema ↔
      Valid config declaration.keys ∧
        schema = ⟨declaration.keys.map (ruleOf config), config.style, config.templates⟩ := by
  cases h : compileKeys config [] declaration.keys with
  | error e =>
    have hnot : ¬ Valid config declaration.keys := fun hv => by
      obtain ⟨rules, hr⟩ := compiles_iff_valid.mpr hv
      simp [h] at hr
    simp [Schema.compile, h, hnot]
  | ok rules =>
    obtain ⟨hv, _, rfl⟩ := compileKeys_eq_ok_iff.mp h
    rw [and_iff_right hv]
    simp [Schema.compile, h, eq_comm]

lemma forall₂_realizes {ds : List KeyDeclaration} (h : ∀ d ∈ ds, Compilable config d) :
    List.Forall₂ (Realizes config) ds (ds.map (ruleOf config)) := by
  rw [List.forall₂_map_right_iff, List.forall₂_same]
  exact fun d hd => (h d hd).realizes

theorem compiles_iff_and_realizes (config : Config) (declaration : SchemaDeclaration) :
    ((∃ rules, compileKeys config [] declaration.keys = .ok rules) ↔
      Valid config declaration.keys) ∧
    ∀ rules, compileKeys config [] declaration.keys = .ok rules →
      List.Forall₂ (Realizes config) declaration.keys rules := by
  refine ⟨compiles_iff_valid, fun rules h => ?_⟩
  obtain ⟨hv, _, rfl⟩ := compileKeys_eq_ok_iff.mp h
  exact forall₂_realizes hv.compilable

/-- A predicate that the type stands for has to be there, but needs no template. -/
example :
    let config : Config :=
      { Config.params with templates := { TemplateSet.english with predicates := OrderedMap.empty } }
    let age := (KeyDeclaration.required "age").value "integer"
    (compileKeys config [] [age.predicate "int?"]).map (List.map Rule.predicateNames) = .ok [[]] ∧
      compileKeys config [] [age.check "int?" .null]
        = .error (.arityMismatch "age" "int?" 0 1) := by
  exact ⟨rfl, rfl⟩

end Conform.Compile
