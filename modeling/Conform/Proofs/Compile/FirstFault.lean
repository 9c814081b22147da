import Conform.Proofs.Compile.Validity

/-! Which fault of a declaration is reported. The relations below follow the order in which faults
are ruled out: each constructor says that everything in front of its fault is in order. -/

namespace Conform.Compile

def scan {σ α β ε : Type} (step : σ → α → Except ε β) (next : σ → α → σ) :
    σ → List α → Except ε (List β)
  | _, [] => .ok []
  | s, a :: as =>
    match step s a with
    | .error e => .error e
    | .ok b =>
      match scan step next (next s a) as with
      | .error e => .error e
      | .ok bs => .ok (b :: bs)

lemma scan_eq_error_iff {σ α β ε : Type} {step : σ → α → Except ε β} {next : σ → α → σ} {s : σ}
    {as : List α} {e : ε} :
    scan step next s as = .error e ↔
      ∃ pre a post, as = pre ++ a :: post ∧ (∃ bs, scan step next s pre = .ok bs) ∧
        step (pre.foldl next s) a = .error e := by
  induction as generalizing s with
  | nil => simp [scan]
  | cons a as ih =>
    cases ha : step s a with
    | error e' =>
      simp only [scan, ha, Except.error.injEq]
      constructor
      · rintro rfl
        exact ⟨[], a, as, rfl, ⟨[], rfl⟩, ha⟩
      · rintro ⟨_ | ⟨b, pre⟩, a', post, hsplit, ⟨bs, hpre⟩, hstep⟩
        · obtain ⟨rfl, rfl⟩ := List.cons.inj hsplit
          simpa [ha] using hstep
        · obtain ⟨rfl, _⟩ := List.cons.inj hsplit
          simp [scan, ha] at hpre
    | ok b =>
      have hrest : scan step next s (a :: as) = .error e ↔ scan step next (next s a) as = .error e := by
        cases has : scan step next (next s a) as <;> simp [scan, ha, has]
      rw [hrest, ih]
      constructor
      · rintro ⟨pre, a', post, rfl, ⟨bs, hpre⟩, hstep⟩
        exact ⟨a :: pre, a', post, rfl, ⟨b :: bs, by simp [scan, ha, hpre]⟩, hstep⟩
      · rintro ⟨_ | ⟨c, pre⟩, a', post, hsplit, ⟨bs, hpre⟩, hstep⟩
        · obtain ⟨rfl, rfl⟩ := List.cons.inj hsplit
          simp [ha] at hstep
        · obtain ⟨rfl, rfl⟩ := List.cons.inj hsplit
          refine ⟨pre, a', post, rfl, ?_, hstep⟩
          cases hbs : scan step next (next s a) pre with
          | error e' => simp [scan, ha, hbs] at hpre
          | ok bs' => exact ⟨bs', rfl⟩

def compileFresh (config : Config) (seen : List String) (d : KeyDeclaration) :
    Except SchemaError Rule :=
  if d.key ∈ seen then .error (.duplicateKey d.key) else compileKey config d

inductive PredicateFault (config : Config) (key : String) (q : PredicateDeclaration) :
    SchemaError → Prop
  | unknown : config.predicates.get? q.name = none →
      PredicateFault config key q (.unknownPredicate key q.name)
  | arity {p} : config.predicates.get? q.name = some p → q.args.length ≠ p.arity →
      PredicateFault config key q (.arityMismatch key q.name p.arity q.args.length)
  | argument {p} {i : Nat} {parameter : Parameter} {v : Value} :
      config.predicates.get? q.name = some p → q.args.length = p.arity →
      p.parameters[i]? = some parameter → q.args[i]? = some v →
      parameter.kind.accepts v = false →
      (∀ j < i, ∀ (parameter' : Parameter) (v' : Value), p.parameters[j]? = some parameter' →
        q.args[j]? = some v' → parameter'.kind.accepts v' = true) →
      PredicateFault config key q
        (.invalidArgument key q.name parameter.name parameter.kind.description v.kind.name)

inductive KeyFault (config : Config) (d : KeyDeclaration) : SchemaError → Prop
  | type {name} : d.type = some name → config.types.get? name = none →
      KeyFault config d (.unknownType d.key name)
  | predicate {pre q post e} : TypeKnown config d → d.predicates = pre ++ q :: post →
      (∀ r ∈ pre, Resolves config r) → PredicateFault config d.key q e → KeyFault config d e
  | template {pre check post} : TypeKnown config d → (∀ q ∈ d.predicates, Resolves config q) →
      demandedChecks config d = pre ++ check :: post →
      (∀ c ∈ pre, config.templates.has c = true) → config.templates.has check = false →
      KeyFault config d (.missingTemplate d.key check.describe)

inductive FirstFault (config : Config) (seen : List String) (d : KeyDeclaration) :
    SchemaError → Prop
  | duplicate : d.key ∈ seen → FirstFault config seen d (.duplicateKey d.key)
  | key {e} : d.key ∉ seen → KeyFault config d e → FirstFault config seen d e

variable {config : Config} {d : KeyDeclaration} {q : PredicateDeclaration} {e : SchemaError}

lemma PredicateFault.key_eq {key : String} (h : PredicateFault config key q e) : e.key = key := by
  cases h <;> rfl

lemma KeyFault.key_eq (h : KeyFault config d e) : e.key = d.key := by
  cases h with
  | type | template => rfl
  | predicate _ _ _ hq => exact hq.key_eq

lemma FirstFault.key_eq {seen : List String} (h : FirstFault config seen d e) :
    e.key = d.key := by
  cases h with
  | duplicate => rfl
  | key _ hk => exact hk.key_eq

lemma resolveType_eq_error_iff :
    resolveType config d.key d.type = .error e ↔
      ∃ name, d.type = some name ∧ config.types.get? name = none ∧ e = .unknownType d.key name := by
  cases hd : d.type with
  | none => simp [resolveType]
  | some name => cases hn : config.types.get? name <;> simp [resolveType, hn, eq_comm]

lemma badArgument?_eq_some_iff {parameters : List Parameter} {args : List Value}
    {parameter : Parameter} {v : Value} :
    badArgument? parameters args = some (parameter, v) ↔
      ∃ i : Nat, parameters[i]? = some parameter ∧ args[i]? = some v ∧
        parameter.kind.accepts v = false ∧
        ∀ j < i, ∀ (parameter' : Parameter) (v' : Value), parameters[j]? = some parameter' →
          args[j]? = some v' → parameter'.kind.accepts v' = true := by
  constructor
  · intro h
    obtain ⟨hbad, i, hi, heq, hleft⟩ := List.find?_eq_some_iff_getElem.mp h
    have hzip : (parameters.zip args)[i]? = some (parameter, v) := by
      rw [List.getElem?_eq_getElem hi, heq]
    obtain ⟨hp, hv⟩ := List.getElem?_zip_eq_some.mp hzip
    refine ⟨i, hp, hv, by simpa using hbad, fun j hj parameter' v' hp' hv' => ?_⟩
    have hzip' : (parameters.zip args)[j]? = some (parameter', v') :=
      List.getElem?_zip_eq_some.mpr ⟨hp', hv'⟩
    rw [List.getElem?_eq_getElem (Nat.lt_trans hj hi), Option.some.injEq] at hzip'
    simpa [hzip'] using hleft j hj
  · rintro ⟨i, hp, hv, hr, hleft⟩
    obtain ⟨hi, heq⟩ := List.getElem?_eq_some_iff.mp
      (List.getElem?_zip_eq_some (z := (parameter, v)).mpr ⟨hp, hv⟩)
    refine List.find?_eq_some_iff_getElem.mpr ⟨by simpa using hr, i, hi, heq, fun j hj => ?_⟩
    obtain ⟨hp', hv'⟩ := List.getElem?_zip_eq_some.mp (List.getElem?_eq_getElem (Nat.lt_trans hj hi))
    simpa using hleft j hj _ _ hp' hv'

lemma resolvePredicate_eq_error_iff {key : String} :
    resolvePredicate config key q = .error e ↔ PredicateFault config key q e := by
  constructor
  · intro h
    cases hp : config.predicates.get? q.name with
    | none =>
      obtain rfl : SchemaError.unknownPredicate key q.name = e := by
        simpa [resolvePredicate, hp] using h
      exact .unknown hp
    | some p =>
      have hn : p.name = q.name := PredicateRegistry.name_of_get? hp
      by_cases hl : q.args.length = p.arity
      · cases hb : badArgument? p.parameters q.args with
        | none => simp [resolvePredicate, hp, hl, hb] at h
        | some bad =>
          obtain ⟨parameter, v⟩ := bad
          obtain ⟨i, hi, hv, hr, hleft⟩ := badArgument?_eq_some_iff.mp hb
          obtain rfl : SchemaError.invalidArgument key q.name parameter.name
              parameter.kind.description v.kind.name = e := by
            simpa [resolvePredicate, hp, hl, hb, hn] using h
          exact .argument hp hl hi hv hr hleft
      · obtain rfl : SchemaError.arityMismatch key q.name p.arity q.args.length = e := by
          simpa [resolvePredicate, hp, hl, hn] using h
        exact .arity hp hl
  · intro h
    cases h with
    | unknown hp => simp [resolvePredicate, hp]
    | arity hp hl => simp [resolvePredicate, hp, hl, PredicateRegistry.name_of_get? hp]
    | argument hp hl hi hv hr hleft =>
      have hb := badArgument?_eq_some_iff.mpr ⟨_, hi, hv, hr, hleft⟩
      simp [resolvePredicate, hp, hl, hb, PredicateRegistry.name_of_get? hp]

lemma resolvePredicates_eq_scan (key : String) (type : Option DeclaredType)
    (qs : List PredicateDeclaration) :
    resolvePredicates config key type qs =
      (scan (fun _ => resolvePredicate config key) (fun _ _ => ()) () qs).map
        (List.filter fun r => !folds type r) := by
  induction qs with
  | nil => rfl
  | cons q qs ih =>
    rw [resolvePredicates, ih, scan]
    cases resolvePredicate config key q with
    | error e => rfl
    | ok r =>
      cases scan (fun _ => resolvePredicate config key) (fun _ _ => ()) () qs with
      | error e => rfl
      | ok rs => cases hf : folds type r <;> simp [Except.map, hf]

lemma resolvePredicates_eq_error_iff {key : String} {type : Option DeclaredType}
    {qs : List PredicateDeclaration} :
    resolvePredicates config key type qs = .error e ↔
      ∃ pre q post, qs = pre ++ q :: post ∧ (∀ r ∈ pre, Resolves config r) ∧
        PredicateFault config key q e := by
  have hok (pre : List PredicateDeclaration) :
      (∃ rs, scan (fun _ => resolvePredicate config key) (fun _ _ => ()) () pre = .ok rs) ↔
        ∀ r ∈ pre, Resolves config r := by
    have h : (∃ rs, resolvePredicates config key type pre = .ok rs) ↔
        ∀ r ∈ pre, Resolves config r := by simp [resolvePredicates_eq_ok_iff]
    rw [← h, resolvePredicates_eq_scan]
    cases scan (fun _ => resolvePredicate config key) (fun _ _ => ()) () pre <;> simp [Except.map]
  have herror : resolvePredicates config key type qs = .error e ↔
      scan (fun _ => resolvePredicate config key) (fun _ _ => ()) () qs = .error e := by
    rw [resolvePredicates_eq_scan]
    cases scan (fun _ => resolvePredicate config key) (fun _ _ => ()) () qs <;> simp [Except.map]
  rw [herror, scan_eq_error_iff]
  simp only [hok, resolvePredicate_eq_error_iff]

lemma checkTemplates_eq_error_iff {templates : TemplateSet} {rule : Rule} :
    checkTemplates templates rule = .error e ↔
      ∃ pre check post, possibleChecks rule = pre ++ check :: post ∧
        (∀ c ∈ pre, templates.has c = true) ∧ templates.has check = false ∧
        e = .missingTemplate rule.key check.describe := by
  constructor
  · intro h
    cases hf : (possibleChecks rule).find? fun check => !templates.has check with
    | none => simp [checkTemplates, hf] at h
    | some check =>
      obtain ⟨hm, pre, post, hsplit, hpre⟩ := List.find?_eq_some_iff_append.mp hf
      obtain rfl : SchemaError.missingTemplate rule.key check.describe = e := by
        simpa [checkTemplates, hf] using h
      exact ⟨pre, check, post, hsplit, by simpa using hpre, by simpa using hm, rfl⟩
  · rintro ⟨pre, check, post, hsplit, hpre, hm, rfl⟩
    have hf : (possibleChecks rule).find? (fun check => !templates.has check) = some check :=
      List.find?_eq_some_iff_append.mpr ⟨by simpa using hm, pre, post, hsplit, by simpa using hpre⟩
    simp [checkTemplates, hf]

lemma compileKey_eq_error_iff : compileKey config d = .error e ↔ KeyFault config d e := by
  constructor
  · intro h
    cases htype : resolveType config d.key d.type with
    | error e' =>
      obtain rfl : e' = e := by simpa [compileKey, htype] using h
      obtain ⟨name, hd, hn, rfl⟩ := resolveType_eq_error_iff.mp htype
      exact .type hd hn
    | ok type =>
      obtain ⟨ht, rfl⟩ := resolveType_eq_ok_iff.mp htype
      cases hrs : resolvePredicates config d.key (declaredType config d) d.predicates with
      | error e' =>
        obtain rfl : e' = e := by simpa [compileKey, htype, hrs] using h
        obtain ⟨pre, q, post, hsplit, hpre, hq⟩ := resolvePredicates_eq_error_iff.mp hrs
        exact .predicate ht hsplit hpre hq
      | ok rs =>
        have hq := (resolvePredicates_eq_ok_iff.mp hrs).1
        rw [compileKey_of_resolves ht hq, checkTemplates_eq_error_iff,
          (ruleOf_realizes ht hq).possibleChecks] at h
        obtain ⟨pre, check, post, hsplit, hpre, hm, rfl⟩ := h
        exact .template ht hq hsplit hpre hm
  · intro h
    cases h with
    | type hd hn =>
      have htype := resolveType_eq_error_iff.mpr ⟨_, hd, hn, rfl⟩
      simp [compileKey, htype]
    | predicate ht hsplit hpre hq =>
      have htype := resolveType_eq_ok_iff.mpr ⟨ht, rfl⟩
      have hrs : resolvePredicates config d.key (declaredType config d) d.predicates = .error e :=
        resolvePredicates_eq_error_iff.mpr ⟨_, _, _, hsplit, hpre, hq⟩
      simp [compileKey, htype, hrs]
    | template ht hq hsplit hpre hm =>
      rw [compileKey_of_resolves ht hq, checkTemplates_eq_error_iff,
        (ruleOf_realizes ht hq).possibleChecks]
      exact ⟨_, _, _, hsplit, hpre, hm, rfl⟩

lemma compileFresh_eq_error_iff {seen : List String} :
    compileFresh config seen d = .error e ↔ FirstFault config seen d e := by
  by_cases hs : d.key ∈ seen
  · rw [compileFresh, if_pos hs, Except.error.injEq]
    constructor
    · rintro rfl
      exact .duplicate hs
    · intro h
      cases h with
      | duplicate _ => rfl
      | key hn _ => exact absurd hs hn
  · rw [compileFresh, if_neg hs, compileKey_eq_error_iff]
    constructor
    · exact .key hs
    · intro h
      cases h with
      | duplicate hs' => exact absurd hs' hs
      | key _ hk => exact hk

lemma compileKeys_eq_scan (config : Config) (seen : List String) (ds : List KeyDeclaration) :
    compileKeys config seen ds =
      scan (compileFresh config) (fun seen d => d.key :: seen) seen ds := by
  induction ds generalizing seen with
  | nil => rfl
  | cons d ds ih =>
    rw [compileKeys, scan, compileFresh, ih]
    by_cases hs : d.key ∈ seen
    · simp [hs]
    · rw [if_neg hs, if_neg hs]
      cases compileKey config d with
      | error e => rfl
      | ok rule =>
        cases scan (compileFresh config) (fun seen d => d.key :: seen) (d.key :: seen) ds <;> rfl

lemma FirstFault.of_mem_iff {s t : List String} (h : FirstFault config s d e)
    (hst : d.key ∈ s ↔ d.key ∈ t) : FirstFault config t d e := by
  cases h with
  | duplicate hs => exact .duplicate (hst.mp hs)
  | key hs hk => exact .key (fun ht => hs (hst.mpr ht)) hk

lemma compileKeys_eq_error_iff {ds : List KeyDeclaration} :
    compileKeys config [] ds = .error e ↔
      ∃ pre d post, ds = pre ++ d :: post ∧ (∃ rules, compileKeys config [] pre = .ok rules) ∧
        FirstFault config (pre.map KeyDeclaration.key) d e := by
  have hfault (pre : List KeyDeclaration) (d : KeyDeclaration) :
      FirstFault config (pre.foldl (fun seen d => d.key :: seen) []) d e ↔
        FirstFault config (pre.map KeyDeclaration.key) d e := by
    have hmem : d.key ∈ pre.foldl (fun seen d => d.key :: seen) [] ↔
        d.key ∈ pre.map KeyDeclaration.key := by simp
    exact ⟨fun h => h.of_mem_iff hmem, fun h => h.of_mem_iff hmem.symm⟩
  simp only [compileKeys_eq_scan, scan_eq_error_iff, compileFresh_eq_error_iff, hfault]

lemma schema_eq_error_iff {declaration : SchemaDeclaration} :
    Schema.compile declaration config = .error e ↔
      compileKeys config [] declaration.keys = .error e := by
  cases h : compileKeys config [] declaration.keys <;> simp [Schema.compile, h]

theorem error_iff_firstFault (config : Config) (ds : List KeyDeclaration) (e : SchemaError) :
    compileKeys config [] ds = .error e ↔
      ∃ pre d post, ds = pre ++ d :: post ∧ (∃ rules, compileKeys config [] pre = .ok rules) ∧
        FirstFault config (pre.map KeyDeclaration.key) d e ∧ e.key = d.key ∧
        ∀ post', compileKeys config [] (pre ++ d :: post') = .error e := by
  rw [compileKeys_eq_error_iff]
  constructor
  · rintro ⟨pre, d, post, rfl, hpre, hf⟩
    refine ⟨pre, d, post, rfl, hpre, hf, hf.key_eq, fun post' => ?_⟩
    exact compileKeys_eq_error_iff.mpr ⟨pre, d, post', rfl, hpre, hf⟩
  · rintro ⟨pre, d, post, hsplit, hpre, hf, _⟩
    exact ⟨pre, d, post, hsplit, hpre, hf⟩

end Conform.Compile
