import Conform.Proofs.Predicate.Builtin
import Conform.Proofs.Value.Equality

/-! Values that differ in nothing but the order in which their maps, at any depth, list their entries.
Equality takes them for one value, so no predicate that compares values can tell them apart. -/

namespace Conform

namespace Value

inductive Reordered : Value → Value → Prop
  | self (v : Value) : Reordered v v
  | array {as bs : List Value} : List.Forall₂ Reordered as bs → Reordered (array as) (array bs)
  | map {es fs : List (String × Value)} : (Entries.keys es).Perm (Entries.keys fs) →
      (∀ name a b, (name, a) ∈ es → (name, b) ∈ fs → Reordered a b) → Reordered (map es) (map fs)

lemma exists_of_mem_right {R : Value → Value → Prop} {as bs : List Value}
    (hab : List.Forall₂ R as bs) {b : Value} (hb : b ∈ bs) :
    ∃ a ∈ as, R a b := by
  induction hab with
  | nil => cases hb
  | cons hr _ ih =>
    rcases List.mem_cons.mp hb with rfl | hb
    · exact ⟨_, List.mem_cons_self, hr⟩
    · obtain ⟨a, ha, hr⟩ := ih hb
      exact ⟨a, List.mem_cons_of_mem _ ha, hr⟩

variable {v w v' w' : Value} {es fs : List (String × Value)}

lemma Reordered.of_perm (h : es.Perm fs) (hes : (Entries.keys es).Nodup) :
    Reordered (.map es) (.map fs) := by
  refine .map (h.map Prod.fst) fun name a b ha hb => ?_
  obtain rfl := Entries.eq_of_mem hes ha (h.mem_iff.mpr hb)
  exact .self a

lemma Reordered.namesDistinct (h : Reordered v w) (hv : v.NamesDistinct) : w.NamesDistinct := by
  induction v using nested_induction generalizing w with
  | array as ih =>
    cases h with
    | self => exact hv
    | array h =>
      rw [namesDistinct_array_iff] at hv ⊢
      intro b hb
      obtain ⟨a, ha, hab⟩ := exists_of_mem_right h hb
      exact ih a ha hab (hv a ha)
  | map es ih =>
    cases h with
    | self => exact hv
    | @map _ fs hperm hvalues =>
      obtain ⟨hes, hv⟩ := namesDistinct_map_iff.mp hv
      refine namesDistinct_map_iff.mpr ⟨hperm.nodup_iff.mp hes, fun f hf => ?_⟩
      obtain ⟨a, ha⟩ := mem_keys_iff.mp (hperm.mem_iff.mpr (mem_keys_iff.mpr ⟨f.2, hf⟩))
      exact ih _ ha (hvalues _ _ _ ha hf) (hv _ ha)
  | _ =>
    cases h
    exact hv

lemma Reordered.same_iff (h : Reordered v v') : Same v w ↔ Same v' w := by
  induction v using nested_induction generalizing v' w with
  | array as ih =>
    cases h with
    | self => exact Iff.rfl
    | array h =>
      constructor
      · rintro (_ | _ | _ | _ | _ | hs | _)
        have hflip : List.Forall₂ (flip Reordered) _ as := h.flip
        exact .array (forall₂_trans_mem (fun _ _ a ha _ _ hab => (ih a ha hab).mp) hflip hs)
      · rintro (_ | _ | _ | _ | _ | hs | _)
        exact .array (forall₂_trans_mem (S := Same) (fun a ha _ _ _ _ hab => (ih a ha hab).mpr) h hs)
  | map es ih =>
    cases h with
    | self => exact Iff.rfl
    | @map _ fs hperm hvalues =>
      constructor
      · rintro (_ | _ | _ | _ | _ | _ | ⟨hnames, hsame⟩)
        refine .map (fun name => hperm.mem_iff.symm.trans (hnames name)) fun name b c hb hc => ?_
        obtain ⟨a, ha⟩ := mem_keys_iff.mp (hperm.mem_iff.mpr (mem_keys_iff.mpr ⟨b, hb⟩))
        exact (ih (name, a) ha (hvalues name a b ha hb)).mp (hsame name a c ha hc)
      · rintro (_ | _ | _ | _ | _ | _ | ⟨hnames, hsame⟩)
        refine .map (fun name => hperm.mem_iff.trans (hnames name)) fun name a c ha hc => ?_
        obtain ⟨b, hb⟩ := mem_keys_iff.mp (hperm.mem_iff.mp (mem_keys_iff.mpr ⟨a, ha⟩))
        exact (ih (name, a) ha (hvalues name a b ha hb)).mpr (hsame name b c hb hc)
  | _ =>
    cases h
    exact Iff.rfl

lemma beq_reordered (hv : v.NamesDistinct) (hw : w.NamesDistinct) (h : Reordered v v')
    (h' : Reordered w w') : (v == w) = (v' == w') := by
  rw [Bool.eq_iff_iff, beq_iff_same hv hw, beq_iff_same (h.namesDistinct hv) (h'.namesDistinct hw)]
  calc
    Same v w ↔ Same v' w := h.same_iff
    _ ↔ Same w v' := ⟨Same.symm, Same.symm⟩
    _ ↔ Same w' v' := h'.same_iff
    _ ↔ Same v' w' := ⟨Same.symm, Same.symm⟩

section Predicates

variable {subject subject' : Option Value} {args args' items items' : List Value}

lemma any_beq_reordered (hitems : ∀ item ∈ items, item.NamesDistinct) (hv : v.NamesDistinct)
    (h : List.Forall₂ Reordered items items') (hvv : Reordered v v') :
    (items.any fun item => item == v) = items'.any fun item => item == v' := by
  induction h with
  | nil => rfl
  | cons hw _ ih =>
    obtain ⟨hitem, hitems⟩ := List.forall_mem_cons.mp hitems
    rw [List.any_cons, List.any_cons, beq_reordered hitem hv hw hvv, ih hitems]

lemma Reordered.any_items (h : Reordered w w') (hw : w.NamesDistinct) (hv : v.NamesDistinct)
    (hvv : Reordered v v') :
    Option.Rel (fun items items' =>
      (items.any fun item => item == v) = items'.any fun item => item == v') w.array? w'.array? := by
  cases h with
  | self =>
    cases w with
    | array items =>
      have hself : List.Forall₂ Reordered items items := List.forall₂_same.mpr fun v _ => .self v
      exact .some (any_beq_reordered (namesDistinct_array_iff.mp hw) hv hself hvv)
    | _ => exact .none
  | array h => exact .some (any_beq_reordered (namesDistinct_array_iff.mp hw) hv h hvv)
  | map => exact .none

lemma includedIn_cons (v w : Value) (ws : List Value) :
    Predicate.includedIn (some v) (w :: ws)
      = w.array?.any fun items => items.any fun item => item == v := by
  cases w <;> rfl

lemma excludedFrom_cons (v w : Value) (ws : List Value) :
    Predicate.excludedFrom (some v) (w :: ws)
      = w.array?.any fun items => !items.any fun item => item == v := by
  cases w <;> rfl

lemma holds_reordered (hsubject : Option.Rel Reordered subject subject')
    (hargs : List.Forall₂ Reordered args args') (hv : ∀ v ∈ subject, v.NamesDistinct)
    (hw : ∀ w ∈ args, w.NamesDistinct) :
    Predicate.equal subject args = Predicate.equal subject' args' ∧
    Predicate.notEqual subject args = Predicate.notEqual subject' args' ∧
    Predicate.includedIn subject args = Predicate.includedIn subject' args' ∧
    Predicate.excludedFrom subject args = Predicate.excludedFrom subject' args' := by
  cases hsubject with
  | none => exact ⟨rfl, rfl, rfl, rfl⟩
  | @some v v' hvv =>
    cases hargs with
    | nil => exact ⟨rfl, rfl, rfl, rfl⟩
    | @cons w w' ws ws' hww hrest =>
      have hv : v.NamesDistinct := hv v rfl
      have hw : w.NamesDistinct := hw w List.mem_cons_self
      have hbeq : (v == w) = (v' == w') := beq_reordered hv hw hvv hww
      refine ⟨hbeq, congrArg Bool.not hbeq, ?_⟩
      have hany := hww.any_items hw hv hvv
      simp only [includedIn_cons, excludedFrom_cons]
      generalize w.array? = listed, w'.array? = listed' at hany
      cases hany with
      | none => exact ⟨rfl, rfl⟩
      | some hany => exact ⟨hany, congrArg Bool.not hany⟩

/-- Where no map names an entry twice, equality is symmetric and transitive, and reflexive but for
what is no number. It goes by `Same`, so the order of the entries of a map plays no part in it, nor in
the predicates that are built on it. -/
theorem equality_up_to_order :
    (∀ v : Value, v.NamesDistinct → v.NoNaN → (v == v) = true) ∧
    (∀ v w : Value, v.NamesDistinct → w.NamesDistinct → (v == w) = (w == v)) ∧
    (∀ u v w : Value, u.NamesDistinct → v.NamesDistinct → w.NamesDistinct →
      (u == v) = true → (v == w) = true → (u == w) = true) ∧
    (∀ v w : Value, v.NamesDistinct → w.NamesDistinct → ((v == w) = true ↔ Same v w)) ∧
    ∀ (subject subject' : Option Value) (args args' : List Value),
      Option.Rel Reordered subject subject' → List.Forall₂ Reordered args args' →
      (∀ v ∈ subject, v.NamesDistinct) → (∀ w ∈ args, w.NamesDistinct) →
      ∀ name ∈ ["eql?", "not_eql?", "included_in?", "excluded_from?"],
        PredicateRegistry.builtin.holds name subject args
          = PredicateRegistry.builtin.holds name subject' args' := by
  refine ⟨fun v hv hn => ?_, fun v w hv hw => beq_comm hv hw, fun u v w hu hv hw huv hvw => ?_,
    fun v w hv hw => beq_iff_same hv hw, fun subject subject' args args' hs ha hv hw => ?_⟩
  · exact (beq_iff_same hv hv).mpr (same_self hv hn)
  · rw [beq_iff_same hu hv] at huv
    rw [beq_iff_same hv hw] at hvw
    exact (beq_iff_same hu hw).mpr (huv.trans hvw)
  · obtain ⟨hequal, hnotEqual, hincluded, hexcluded⟩ := holds_reordered hs ha hv hw
    simp only [List.forall_mem_cons]
    exact ⟨hequal, hnotEqual, hincluded, hexcluded, nofun⟩

theorem equality_up_to_order_nested :
    let inner := map [("x", integer 1), ("y", float 0.0)]
    let inner' := map [("y", float 0.0), ("x", integer 1)]
    let v := map [("a", array [inner]), ("b", null)]
    let v' := map [("b", null), ("a", array [inner'])]
    let w := map [("a", array [map [("x", integer 1), ("y", float (-0.0))]]), ("b", null)]
    Reordered v v' ∧ (v == v) = true ∧ (w == v) = true ∧ (v' == w) = true ∧ Same v w ∧
      PredicateRegistry.builtin.holds "included_in?" (some v) [array [integer 1, v']]
        = PredicateRegistry.builtin.holds "included_in?" (some v') [array [integer 1, v']] := by
  intro inner inner' v v' w
  have hv : v.NamesDistinct := by decide
  have hv' : v'.NamesDistinct := by decide
  have hw : w.NamesDistinct := by decide
  have hnan : v.NoNaN := by
    intro x hx
    obtain rfl : x = 0.0 := by simpa [v, inner, parts, partsIn, partsOf] using hx
    decide
  have hinner : Reordered inner inner' :=
    .of_perm (.swap ("y", float 0.0) ("x", integer 1) []) (by decide)
  have hreordered : Reordered v v' := by
    refine .map (.swap "b" "a" []) fun name a b ha hb => ?_
    simp only [List.mem_cons, Prod.mk.injEq, List.not_mem_nil, or_false] at ha hb
    rcases ha with ⟨rfl, rfl⟩ | ⟨rfl, rfl⟩
    · obtain rfl : b = array [inner'] := by simpa using hb
      exact .array (.cons hinner .nil)
    · obtain rfl : b = null := by simpa using hb
      exact .self null
  obtain ⟨hself, hsymm, htrans, hsame, hpredicates⟩ := equality_up_to_order
  have hvw : (v == w) = true := by decide
  have hvv : (v' == v) = true := by decide
  refine ⟨hreordered, hself v hv hnan, (hsymm w v hw hv).trans hvw, htrans v' v w hv' hv hw hvv hvw,
    (hsame v w hv hw).mp hvw, ?_⟩
  refine hpredicates _ _ _ _ (.some hreordered) (List.forall₂_same.mpr fun u _ => .self u) ?_ ?_ _
    (by decide)
  · rintro u ⟨⟩
    exact hv
  · intro u hu
    rw [List.mem_singleton.mp hu]
    decide

end Predicates

end Value

end Conform
