import Conform.Proofs.Validation.EmptyText
import Conform.Proofs.Validation.Normalized

/-! Reading a value twice. The name of a built-in type decides, in both styles, what kind of values it
reads; and a value of that kind, empty or not, is read as it is. So what was read once is settled. -/

namespace Conform

namespace DeclaredType

structure Retracts (kind : ValueKind) (parse : Value → Option Value) : Prop where
  reads : Reads kind parse
  keeps : ∀ w, w.kind = kind → parse w = some w

structure Settles (t : DeclaredType) (kind : ValueKind) : Prop where
  reads : Reads kind t.parse
  coerce : ∀ w, w.kind = kind → t.coerce (.classify t.emptyText (some w)) = .coerced w t.name

variable {s t : DeclaredType} {kind : ValueKind} {p : Presence} {w : Value}
  {parse text strict : Value → Option Value} {name typePredicate type : String}

lemma retracts_strictInteger : Retracts .integer strictInteger :=
  ⟨reads_strictInteger, fun _ => strictInteger_self⟩

lemma retracts_strictFloat : Retracts .float strictFloat :=
  ⟨reads_strictFloat, fun _ => strictFloat_self⟩

lemma retracts_strictBoolean : Retracts .boolean strictBoolean :=
  ⟨reads_strictBoolean, fun _ => strictBoolean_self⟩

lemma retracts_strictString : Retracts .string strictString where
  reads := reads_strictString
  keeps w hw := by cases w <;> first | rfl | cases hw

lemma retracts_strictArray : Retracts .array strictArray where
  reads := reads_strictArray
  keeps w hw := by cases w <;> first | rfl | cases hw

lemma retracts_strictMap : Retracts .map strictMap where
  reads := reads_strictMap
  keeps w hw := by cases w <;> first | rfl | cases hw

lemma Extends.retracts (h : Extends text strict) (hstrict : Retracts kind strict)
    (hreads : Reads kind text) : Retracts kind text where
  reads := hreads
  keeps w hw := h.parse (hstrict.keeps w hw)

lemma coerce_typed (h : t.parse w = some w) : coerce.typed t w = .coerced w t.name := by
  rw [coerce.typed, h]

lemma coerce_blankable (h : w.kind ≠ .null) :
    (blankable name typePredicate parse).coerce (.classify .blank (some w))
      = coerce.typed (blankable name typePredicate parse) w := by
  cases w with
  | null => exact absurd rfl h
  | boolean b | integer n | float x => rfl
  | string s => by_cases hs : s.isEmpty = true <;> simp [Presence.classify, hs, coerce, blankable]
  | array items =>
    by_cases hi : items.isEmpty = true <;> simp [Presence.classify, hi, coerce, blankable]
  | map entries =>
    by_cases he : entries.isEmpty = true <;> simp [Presence.classify, he, coerce, blankable]

lemma Retracts.settles_scalar (h : Retracts kind parse) (hkind : Scalar kind) (e : EmptyText)
    (name typePredicate : String) : (scalar name typePredicate e parse).Settles kind where
  reads := h.reads
  coerce w hw := by
    rw [emptyText_scalar, classify_of_scalar hkind hw]
    exact coerce_typed (h.keeps w hw)

lemma Retracts.settles_blankable (h : Retracts kind parse) (hkind : kind ≠ .null)
    (name typePredicate : String) : (blankable name typePredicate parse).Settles kind where
  reads := h.reads
  coerce w hw := by
    have hread : coerce.typed (blankable name typePredicate parse) w = .coerced w name :=
      coerce_typed (h.keeps w hw)
    exact (coerce_blankable (hw ▸ hkind)).trans hread

def kinds : Entries ValueKind :=
  [("integer", .integer), ("float", .float), ("decimal", .float), ("bool", .boolean),
    ("string", .string), ("array", .array), ("hash", .map)]

def SettlesByName (t : DeclaredType) : Prop := ∃ kind, kinds.get? t.name = some kind ∧ t.Settles kind

lemma settlesByName_scalars {integer float boolean : Value → Option Value}
    (hinteger : Retracts .integer integer) (hfloat : Retracts .float float)
    (hboolean : Retracts .boolean boolean) (e : EmptyText) :
    ∀ t ∈ [scalar "integer" "int?" e integer, scalar "float" "float?" e float,
      scalar "decimal" "decimal?" e float, scalar "bool" "bool?" e boolean], t.SettlesByName := by
  simp only [List.forall_mem_cons]
  exact ⟨⟨.integer, rfl, hinteger.settles_scalar (.inr (.inl rfl)) e _ _⟩,
    ⟨.float, rfl, hfloat.settles_scalar (.inr (.inr rfl)) e _ _⟩,
    ⟨.float, rfl, hfloat.settles_scalar (.inr (.inr rfl)) e _ _⟩,
    ⟨.boolean, rfl, hboolean.settles_scalar (.inl rfl) e _ _⟩, List.forall_mem_nil _⟩

lemma settlesByName_blankable : ∀ t ∈ blankableTypes, t.SettlesByName := by
  simp only [blankableTypes, List.forall_mem_cons]
  exact ⟨⟨.string, rfl, retracts_strictString.settles_blankable (by decide) _ _⟩,
    ⟨.array, rfl, retracts_strictArray.settles_blankable (by decide) _ _⟩,
    ⟨.map, rfl, retracts_strictMap.settles_blankable (by decide) _ _⟩, List.forall_mem_nil _⟩

lemma settlesByName (style : InputStyle) : ∀ t ∈ ofStyle style, t.SettlesByName := by
  cases style with
  | params =>
    have hinteger := textInteger_extends.retracts retracts_strictInteger reads_textInteger
    have hfloat := textFloat_extends.retracts retracts_strictFloat reads_textFloat
    have hboolean := textBoolean_extends.retracts retracts_strictBoolean reads_textBoolean
    exact List.forall_mem_append.mpr
      ⟨settlesByName_scalars hinteger hfloat hboolean .null, settlesByName_blankable⟩
  | json =>
    exact List.forall_mem_append.mpr
      ⟨settlesByName_scalars retracts_strictInteger retracts_strictFloat retracts_strictBoolean .blank,
        settlesByName_blankable⟩

lemma Settles.coerce_coerced (hs : s.Settles kind) (ht : t.Settles kind) (hname : s.name = t.name)
    (h : s.coerce p = .coerced w type) :
    t.coerce (.classify t.emptyText (some w)) = .coerced w type := by
  have hcoerced : (s.coerce p).isCoerced = true := by rw [h]; rfl
  obtain ⟨v, w', _, hparse, hc⟩ := exists_of_isCoerced hcoerced
  obtain ⟨rfl, rfl⟩ := TypedValue.coerced.inj (hc.symm.trans h)
  rw [ht.coerce _ (hs.reads v _ hparse), hname]

end DeclaredType

namespace TypeRegistry

variable {style style' : InputStyle} {name : String} {t : DeclaredType}

lemma names_forStyle (style style' : InputStyle) : (forStyle style).names = (forStyle style').names := by
  cases style <;> cases style' <;> rfl

lemma exists_get?_of_style (style' : InputStyle) (h : (forStyle style).get? name = some t) :
    ∃ t', (forStyle style').get? name = some t' := by
  refine Option.ne_none_iff_exists'.mp fun hnone => ?_
  have hmissing : name ∉ (forStyle style').names := Entries.get?_eq_none_iff.mp hnone
  rw [names_forStyle style' style] at hmissing
  have hget : (forStyle style).get? name = none := Entries.get?_eq_none_iff.mpr hmissing
  rw [h] at hget
  cases hget

lemma settles_of_get? (h : (forStyle style).get? name = some t) :
    ∃ kind, DeclaredType.kinds.get? name = some kind ∧ t.Settles kind := by
  have hname : t.name = name := name_of_get? h
  rw [forStyle_eq_ofList] at h
  exact hname ▸ DeclaredType.settlesByName style t (mem_of_get?_ofList h)

end TypeRegistry

theorem coercion_settles :
    (∀ (style style' : InputStyle) (name : String) (s : DeclaredType),
      (TypeRegistry.forStyle style).get? name = some s →
        ∃ t, (TypeRegistry.forStyle style').get? name = some t ∧
          ∀ (input : Input) (key : String) (w : Value) (type : String),
            s.coerce (input.classify key s.emptyText) = .coerced w type →
              t.coerce ((input.insert key w).classify key t.emptyText) = .coerced w type) ∧
      ∀ (t : DeclaredType) (p : Presence) (raw : Option Value), t.coerce p = .failed raw →
        raw = p.value ∧ ∀ (input : Input) (key : String) (e : EmptyText),
          p = input.classify key e → p.kind ≠ .null → raw = input.get? key := by
  refine ⟨fun style style' name s hs => ?_, fun t p raw h => ?_⟩
  · obtain ⟨t, ht⟩ := TypeRegistry.exists_get?_of_style style' hs
    obtain ⟨kind, hkind, hsettles⟩ := TypeRegistry.settles_of_get? hs
    obtain ⟨kind', hkind', htettles⟩ := TypeRegistry.settles_of_get? ht
    -- the name alone decides the kind
    obtain rfl : kind = kind' := Option.some.inj (hkind.symm.trans hkind')
    have hname : s.name = t.name :=
      (TypeRegistry.name_of_get? hs).trans (TypeRegistry.name_of_get? ht).symm
    refine ⟨t, ht, fun input key w type hw => ?_⟩
    rw [Input.classify, Input.get?_insert, if_pos rfl]
    exact hsettles.coerce_coerced htettles hname hw
  · have hraw : raw = p.value := DeclaredType.coerce_failed h
    refine ⟨hraw, ?_⟩
    rintro input key e rfl hkind
    exact hraw.trans (Presence.value_classify hkind)

theorem coercion_settles_signed :
    let input := Input.ofEntries [("age", .string "+007")]
    ∃ s t, TypeRegistry.params.get? "integer" = some s ∧ TypeRegistry.json.get? "integer" = some t ∧
      s.coerce (input.classify "age" s.emptyText) = .coerced (.integer 7) "integer" ∧
      t.coerce ((input.insert "age" (.integer 7)).classify "age" t.emptyText)
        = .coerced (.integer 7) "integer" ∧
      t.coerce (input.classify "age" t.emptyText) = .failed (input.get? "age") := by
  intro input
  obtain ⟨s, hs⟩ : ∃ s, TypeRegistry.params.get? "integer" = some s := ⟨_, rfl⟩
  obtain ⟨t, ht, hsettled⟩ := coercion_settles.1 .params .json "integer" s hs
  have hread : s.coerce (input.classify "age" s.emptyText) = .coerced (.integer 7) "integer" := by
    cases hs
    rfl
  have hunread : t.coerce (input.classify "age" t.emptyText) = .failed (some (.string "+007")) := by
    cases ht
    rfl
  have hraw := (coercion_settles.2 t _ _ hunread).2 input "age" t.emptyText rfl (by cases ht; decide)
  exact ⟨s, t, hs, ht, hread, hsettled input "age" _ _ hread, hunread.trans (congrArg _ hraw)⟩

end Conform
