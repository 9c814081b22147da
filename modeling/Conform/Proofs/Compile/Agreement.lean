import Conform.Proofs.Compile.FirstFault

/-! Configurations between which compilation sees no difference: they know the same names of types,
with the same type predicates, and share predicates and templates. How a type reads values plays no
part in compiling. -/

namespace Conform.Compile

structure Alike (config config' : Config) : Prop where
  types : ∀ name, (config.types.get? name).map DeclaredType.typePredicate
    = (config'.types.get? name).map DeclaredType.typePredicate
  predicates : config.predicates = config'.predicates
  templates : config.templates = config'.templates

lemma keeps_eq_all (type : Option DeclaredType) (q : PredicateDeclaration) :
    keeps type q = (type.map DeclaredType.typePredicate).all fun name => q.name != name := by
  cases type <;> rfl

namespace Alike

variable {config config' : Config} {d : KeyDeclaration} {q : PredicateDeclaration} {e : SchemaError}

lemma symm (h : Alike config config') : Alike config' config :=
  ⟨fun name => (h.types name).symm, h.predicates.symm, h.templates.symm⟩

lemma type_unknown (h : Alike config config') {name : String}
    (hn : config.types.get? name = none) : config'.types.get? name = none := by
  have hmap := h.types name
  rw [hn] at hmap
  exact Option.map_eq_none_iff.mp hmap.symm

lemma typeKnown (h : Alike config config') (ht : TypeKnown config d) : TypeKnown config' d := by
  intro name hname
  obtain ⟨s, hs⟩ := ht name hname
  refine Option.ne_none_iff_exists'.mp fun hn => ?_
  rw [h.symm.type_unknown hn] at hs
  cases hs

lemma declaredType_eq (h : Alike config config') (d : KeyDeclaration) :
    (declaredType config d).map DeclaredType.typePredicate
      = (declaredType config' d).map DeclaredType.typePredicate := by
  cases hd : d.type with
  | none => simp [declaredType, hd]
  | some name => simpa [declaredType, hd] using h.types name

lemma remaining_eq (h : Alike config config') (d : KeyDeclaration) :
    remaining config d = remaining config' d := by
  refine List.filter_congr fun q _ => ?_
  rw [keeps_eq_all, keeps_eq_all, h.declaredType_eq]

lemma demandedChecks_eq (h : Alike config config') (d : KeyDeclaration) :
    demandedChecks config d = demandedChecks config' d := by
  rw [demandedChecks, demandedChecks, h.remaining_eq]

lemma predicateRule?_eq (h : Alike config config') : predicateRule? config = predicateRule? config' := by
  funext q
  rw [predicateRule?, predicateRule?, h.predicates]

lemma resolves (h : Alike config config') (hq : Resolves config q) : Resolves config' q := by
  rwa [Resolves, ← h.predicates]

lemma predicateFault (h : Alike config config') {key : String}
    (hq : PredicateFault config key q e) : PredicateFault config' key q e := by
  cases hq with
  | unknown hp => exact .unknown (h.predicates ▸ hp)
  | arity hp hl => exact .arity (h.predicates ▸ hp) hl
  | argument hp hl hi hv hr hleft => exact .argument (h.predicates ▸ hp) hl hi hv hr hleft

lemma keyFault (h : Alike config config') (hd : KeyFault config d e) : KeyFault config' d e := by
  cases hd with
  | type hname hn => exact .type hname (h.type_unknown hn)
  | predicate ht hsplit hpre hq =>
    exact .predicate (h.typeKnown ht) hsplit (fun r hr => h.resolves (hpre r hr))
      (h.predicateFault hq)
  | template ht hq hsplit hpre hm =>
    rw [h.demandedChecks_eq] at hsplit
    rw [h.templates] at hm
    exact .template (h.typeKnown ht) (fun q hmem => h.resolves (hq q hmem)) hsplit
      (fun c hc => h.templates ▸ hpre c hc) hm

lemma firstFault (h : Alike config config') {seen : List String}
    (hd : FirstFault config seen d e) : FirstFault config' seen d e := by
  cases hd with
  | duplicate hs => exact .duplicate hs
  | key hs hk => exact .key hs (h.keyFault hk)

lemma compilable (h : Alike config config') (hd : Compilable config d) : Compilable config' d where
  typeKnown := h.typeKnown hd.typeKnown
  resolves q hq := h.resolves (hd.resolves q hq)
  templates check hc := by
    rw [← h.templates]
    exact hd.templates check (h.demandedChecks_eq d ▸ hc)

lemma valid (h : Alike config config') {ds : List KeyDeclaration} (hv : Valid config ds) :
    Valid config' ds where
  distinct := hv.distinct
  compilable d hd := h.compilable (hv.compilable d hd)

lemma compiles (h : Alike config config') {declaration : SchemaDeclaration} {schema : Schema}
    (hs : Schema.compile declaration config = .ok schema) :
    ∃ schema', Schema.compile declaration config' = .ok schema' :=
  ⟨_, schema_eq_ok_iff.mpr ⟨h.valid (schema_eq_ok_iff.mp hs).1, rfl⟩⟩

lemma fails (h : Alike config config') {declaration : SchemaDeclaration}
    (he : Schema.compile declaration config = .error e) :
    Schema.compile declaration config' = .error e := by
  rw [schema_eq_error_iff, compileKeys_eq_error_iff] at he ⊢
  obtain ⟨pre, d, post, hsplit, ⟨rules, hpre⟩, hf⟩ := he
  have hpre' := compiles_iff_valid.mpr (h.valid (compiles_iff_valid.mp ⟨rules, hpre⟩))
  exact ⟨pre, d, post, hsplit, hpre', h.firstFault hf⟩

end Alike

end Conform.Compile
