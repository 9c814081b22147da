import Conform.Proofs.Evaluation.Standard
import Conform.Schema.Config
import Mathlib.Data.List.Forall2

/-! The declared types that come with the library. Each reads values of one kind, the kind that its
type predicate asks for; and a type of documents accepts no more than the type of the same name for
parameters. -/

namespace Conform

namespace TypeRegistry

variable {registry registry' : TypeRegistry} {name : String} {t : DeclaredType}

lemma get?_register (registry : TypeRegistry) (t : DeclaredType) (name : String) :
    (registry.register t).get? name = if name = t.name then some t else registry.get? name :=
  OrderedMap.get?_insert registry.types t.name name t

lemma mem_of_get?_ofList {types : List DeclaredType} (h : (ofList types).get? name = some t) :
    t ∈ types := by
  have htypes : (ofList types).types
      = types.foldl (fun m t => m.insert t.name t) OrderedMap.empty :=
    (List.foldl_hom TypeRegistry.types fun _ _ => rfl).symm
  rw [get?, htypes] at h
  exact (OrderedMap.mem_of_get?_foldl_insert h).resolve_right nofun

lemma rel_register {R : DeclaredType → DeclaredType → Prop} {s : DeclaredType} (hR : R s t)
    (hname : s.name = t.name) (h : Option.Rel R (registry.get? name) (registry'.get? name)) :
    Option.Rel R ((registry.register s).get? name) ((registry'.register t).get? name) := by
  rw [get?_register, get?_register, hname]
  by_cases hn : name = t.name
  · rw [if_pos hn, if_pos hn]
    exact .some hR
  · rwa [if_neg hn, if_neg hn]

lemma rel_ofList {R : DeclaredType → DeclaredType → Prop}
    (hname : ∀ s t, R s t → s.name = t.name) {ss ts : List DeclaredType} (h : List.Forall₂ R ss ts)
    (name : String) : Option.Rel R ((ofList ss).get? name) ((ofList ts).get? name) := by
  have hfold {registry registry' : TypeRegistry}
      (hr : Option.Rel R (registry.get? name) (registry'.get? name)) :
      Option.Rel R ((ss.foldl register registry).get? name)
        ((ts.foldl register registry').get? name) := by
    induction h generalizing registry registry' with
    | nil => exact hr
    | cons hst _ ih => exact ih (rel_register hst (hname _ _ hst) hr)
  exact hfold .none

end TypeRegistry

namespace DeclaredType

variable {v w : Value}

def Reads (kind : ValueKind) (parse : Value → Option Value) : Prop :=
  ∀ v w, parse v = some w → w.kind = kind

lemma reads_map {α : Type} {kind : ValueKind} (read : Value → Option α) (make : α → Value)
    (h : ∀ a, (make a).kind = kind) : Reads kind fun v => (read v).map make := by
  intro v w hw
  obtain ⟨a, _, rfl⟩ := Option.map_eq_some_iff.mp hw
  exact h a

lemma reads_strictInteger : Reads .integer strictInteger :=
  reads_map Value.integer? .integer fun _ => rfl

lemma reads_strictFloat : Reads .float strictFloat := reads_map Value.float? .float fun _ => rfl

lemma reads_strictBoolean : Reads .boolean strictBoolean :=
  reads_map Value.boolean? .boolean fun _ => rfl

lemma reads_strictString : Reads .string strictString :=
  reads_map Value.string? .string fun _ => rfl

lemma reads_strictArray : Reads .array strictArray := reads_map Value.array? .array fun _ => rfl

lemma reads_strictMap : Reads .map strictMap := reads_map Value.map? .map fun _ => rfl

lemma exists_of_kind_string (h : v.kind = .string) : ∃ s, v = .string s := by
  cases v with
  | string s => exact ⟨s, rfl⟩
  | _ => cases h

structure Extends (text strict : Value → Option Value) : Prop where
  string : ∀ s, strict (.string s) = none
  other : ∀ v, v.kind ≠ .string → text v = strict v

lemma textInteger_extends : Extends textInteger strictInteger where
  string _ := rfl
  other v hv := textInteger.eq_2 v fun _ hs => hv (hs ▸ rfl)

lemma textFloat_extends : Extends textFloat strictFloat where
  string _ := rfl
  other v hv := textFloat.eq_2 v fun _ hs => hv (hs ▸ rfl)

lemma textBoolean_extends : Extends textBoolean strictBoolean where
  string _ := rfl
  other v hv := textBoolean.eq_2 v fun _ hs => hv (hs ▸ rfl)

lemma Extends.parse {text strict : Value → Option Value} (h : Extends text strict)
    (hw : strict v = some w) : text v = some w := by
  have hv : v.kind ≠ .string := by
    intro hv
    obtain ⟨s, rfl⟩ := exists_of_kind_string hv
    simp [h.string s] at hw
  rw [h.other v hv, hw]

lemma Extends.reads {text strict : Value → Option Value} {kind : ValueKind}
    (h : Extends text strict) (hstrict : Reads kind strict)
    (hstring : ∀ s w, text (.string s) = some w → w.kind = kind) : Reads kind text := by
  intro v w hw
  by_cases hv : v.kind = .string
  · obtain ⟨s, rfl⟩ := exists_of_kind_string hv
    exact hstring s w hw
  · rw [h.other v hv] at hw
    exact hstrict v w hw

lemma reads_textInteger : Reads .integer textInteger :=
  textInteger_extends.reads reads_strictInteger fun s w hw => by
    obtain ⟨n, _, rfl⟩ := Option.map_eq_some_iff.mp hw
    rfl

lemma reads_textFloat : Reads .float textFloat :=
  textFloat_extends.reads reads_strictFloat fun s w hw => by
    obtain ⟨x, _, rfl⟩ := Option.map_eq_some_iff.mp hw
    rfl

lemma reads_textBoolean : Reads .boolean textBoolean :=
  textBoolean_extends.reads reads_strictBoolean fun s w hw => by
    obtain ⟨b, _, rfl⟩ := Option.map_eq_some_iff.mp hw
    rfl

structure OfKind (t : DeclaredType) (kind : ValueKind) : Prop where
  reads : Reads kind t.parse
  asks : ∀ p, PredicateRegistry.builtin.get? t.typePredicate = some p →
    p.check = Predicate.isKind kind

lemma asks_of_get? {name : String} {kind : ValueKind} {q : Predicate}
    (hq : PredicateRegistry.builtin.get? name = some q) (hk : q.check = Predicate.isKind kind)
    (p : Predicate) (hp : PredicateRegistry.builtin.get? name = some p) :
    p.check = Predicate.isKind kind := by
  obtain rfl : q = p := Option.some.inj (hq.symm.trans hp)
  exact hk

def ofStyle : InputStyle → List DeclaredType
  | .params => paramsTypes
  | .json => jsonTypes

lemma exists_ofKind_blankable : ∀ t ∈ blankableTypes, ∃ kind, OfKind t kind := by
  simp only [blankableTypes, List.forall_mem_cons]
  exact ⟨⟨.string, reads_strictString, asks_of_get? rfl rfl⟩,
    ⟨.array, reads_strictArray, asks_of_get? rfl rfl⟩,
    ⟨.map, reads_strictMap, asks_of_get? rfl rfl⟩, nofun⟩

lemma exists_ofKind_scalar {integer float boolean : Value → Option Value}
    (hinteger : Reads .integer integer) (hfloat : Reads .float float)
    (hboolean : Reads .boolean boolean) (e : EmptyText) :
    ∀ t ∈ [scalar "integer" "int?" e integer, scalar "float" "float?" e float,
      scalar "decimal" "decimal?" e float, scalar "bool" "bool?" e boolean],
      ∃ kind, OfKind t kind := by
  simp only [List.forall_mem_cons]
  exact ⟨⟨.integer, hinteger, asks_of_get? rfl rfl⟩, ⟨.float, hfloat, asks_of_get? rfl rfl⟩,
    ⟨.float, hfloat, asks_of_get? rfl rfl⟩, ⟨.boolean, hboolean, asks_of_get? rfl rfl⟩, nofun⟩

lemma exists_ofKind (style : InputStyle) : ∀ t ∈ ofStyle style, ∃ kind, OfKind t kind := by
  cases style with
  | params =>
    exact List.forall_mem_append.mpr
      ⟨exists_ofKind_scalar reads_textInteger reads_textFloat reads_textBoolean .null,
        exists_ofKind_blankable⟩
  | json =>
    exact List.forall_mem_append.mpr
      ⟨exists_ofKind_scalar reads_strictInteger reads_strictFloat reads_strictBoolean .blank,
        exists_ofKind_blankable⟩

structure Stricter (s t : DeclaredType) : Prop where
  name : s.name = t.name
  typePredicate : s.typePredicate = t.typePredicate
  emptyText : s.emptyText = .null → t.emptyText = .null
  coerced : ∀ raw, (s.coerce (.classify s.emptyText raw)).isCoerced = true →
    Presence.classify t.emptyText raw = .classify s.emptyText raw ∧
      t.coerce (.classify s.emptyText raw) = s.coerce (.classify s.emptyText raw)

lemma Stricter.refl (t : DeclaredType) : Stricter t t := ⟨rfl, rfl, id, fun _ _ => ⟨rfl, rfl⟩⟩

lemma emptyText_scalar (name typePredicate : String) (e : EmptyText)
    (parse : Value → Option Value) : (scalar name typePredicate e parse).emptyText = e := rfl

lemma stricter_scalar {text strict : Value → Option Value} (h : Extends text strict)
    (name typePredicate : String) :
    Stricter (scalar name typePredicate .blank strict) (scalar name typePredicate .null text) where
  name := rfl
  typePredicate := rfl
  emptyText := nofun
  coerced raw hc := by
    rw [emptyText_scalar] at hc
    rw [emptyText_scalar, emptyText_scalar]
    cases hp : Presence.classify .blank raw with
    | absent | null | blank v => simp [scalar, coerce, hp, TypedValue.isCoerced] at hc
    | present v =>
      rw [hp] at hc
      obtain ⟨w, hw, _⟩ := typed_isCoerced hc
      have htext : text v = strict v := (h.parse hw).trans hw.symm
      exact ⟨Presence.classify_of_present hp, by simp [scalar, coerce, coerce.typed, htext]⟩

lemma forall₂_stricter : List.Forall₂ Stricter (ofStyle .json) (ofStyle .params) := by
  have blankable : List.Forall₂ Stricter blankableTypes blankableTypes :=
    List.forall₂_same.mpr fun t _ => .refl t
  exact .cons (stricter_scalar textInteger_extends "integer" "int?") <|
    .cons (stricter_scalar textFloat_extends "float" "float?") <|
    .cons (stricter_scalar textFloat_extends "decimal" "decimal?") <|
    .cons (stricter_scalar textBoolean_extends "bool" "bool?") blankable

end DeclaredType

namespace TypeRegistry

lemma forStyle_eq_ofList (style : InputStyle) :
    forStyle style = ofList (DeclaredType.ofStyle style) := by
  cases style <;> rfl

lemma exists_ofKind_of_get? {style : InputStyle} {name : String} {t : DeclaredType}
    (h : (forStyle style).get? name = some t) : ∃ kind, t.OfKind kind := by
  rw [forStyle_eq_ofList] at h
  exact DeclaredType.exists_ofKind style t (mem_of_get?_ofList h)

lemma stricter_get? (name : String) :
    Option.Rel DeclaredType.Stricter (json.get? name) (params.get? name) :=
  rel_ofList (fun _ _ h => h.name) DeclaredType.forall₂_stricter name

end TypeRegistry

end Conform
