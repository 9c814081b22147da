import Conform.Proofs.Value.Parts
import Conform.Value.Equality
import Mathlib.Data.List.Forall2
import Mathlib.Data.List.Perm.Subperm
import Mathlib.Tactic.Common

/-! Equality of values. Floats that are equal are the same but for the sign of a zero. Two maps are equal
if they are equally long and each entry of the one has its equal in the other; since no map names an
entry twice that makes the names the same, at every depth, and equality a relation that is read the same
from both sides. -/

namespace Conform

namespace Value

section Floats

open Float.Model (UnpackedFloat)
open Float.Model.UnpackedFloat (Sign)

variable {x y z : Float}

inductive Coincide : UnpackedFloat → UnpackedFloat → Prop
  | infinity (s : Sign) : Coincide (.infinity s) (.infinity s)
  | zero (s t : Sign) : Coincide (.zero s) (.zero t)
  | finite (s : Sign) {m : Nat} (e : Int) (hm : 0 < m) : Coincide (.finite s m e hm) (.finite s m e hm)

lemma compare_finite_iff {s t : Sign} {m n : Nat} {e f : Int} (hm : 0 < m) (hn : 0 < n) :
    (UnpackedFloat.finite s m e hm).compare (.finite t n f hn) = some .eq ↔
      s = t ∧ m = n ∧ e = f := by
  cases s with
  | negative =>
    cases t with
    | negative =>
      change some ((compare e f).then (compare m n)).swap = some .eq ↔ _
      simp [and_comm]
    | positive =>
      change some Ordering.lt = some .eq ↔ _
      simp
  | positive =>
    cases t with
    | negative =>
      change some Ordering.gt = some .eq ↔ _
      simp
    | positive =>
      change some ((compare e f).then (compare m n)) = some .eq ↔ _
      simp [and_comm]

lemma coincide_of_compare {a b : UnpackedFloat} (h : a.compare b = some .eq) : Coincide a b := by
  cases a with
  | notANumber => cases h
  | infinity s =>
    cases b with
    | notANumber => cases s <;> cases h
    | infinity t => cases s <;> cases t <;> first | exact .infinity _ | cases h
    | zero t => cases s <;> cases h
    | finite t n f hn => cases s <;> cases h
  | zero s =>
    cases b with
    | notANumber => cases h
    | infinity t => cases t <;> cases h
    | zero t => exact .zero s t
    | finite t n f hn => cases t <;> cases h
  | finite s m e hm =>
    cases b with
    | notANumber => cases h
    | infinity t => cases t <;> cases h
    | zero t => cases s <;> cases h
    | finite t n f hn =>
      obtain ⟨rfl, rfl, rfl⟩ := (compare_finite_iff hm hn).mp h
      exact .finite s e hm

lemma compare_of_coincide {a b : UnpackedFloat} (h : Coincide a b) : a.compare b = some .eq := by
  cases h with
  | infinity s => cases s <;> rfl
  | zero => rfl
  | finite s e hm => exact (compare_finite_iff hm hm).mpr ⟨rfl, rfl, rfl⟩

lemma coincide_self {a : UnpackedFloat} (h : a.isNaN = false) : Coincide a a := by
  cases a with
  | notANumber => cases h
  | infinity s => exact .infinity s
  | zero s => exact .zero s s
  | finite s m e hm => exact .finite s e hm

lemma Coincide.symm {a b : UnpackedFloat} (h : Coincide a b) : Coincide b a := by
  cases h with
  | infinity s => exact .infinity s
  | zero s t => exact .zero t s
  | finite s e hm => exact .finite s e hm

lemma Coincide.trans {a b c : UnpackedFloat} (h : Coincide a b) (h' : Coincide b c) : Coincide a c := by
  cases h with
  | infinity s => exact h'
  | zero s t =>
    cases h' with
    | zero _ u => exact .zero s u
  | finite s e hm => exact h'

lemma beq_float_iff : (x == y) = true ↔ Coincide x.toModel.unpack y.toModel.unpack := by
  have hcompare : (x == y) = (x.toModel.unpack.compare y.toModel.unpack == some .eq) := rfl
  rw [hcompare, beq_iff_eq]
  exact ⟨coincide_of_compare, compare_of_coincide⟩

lemma beq_float_self (h : x.isNaN = false) : (x == x) = true :=
  beq_float_iff.mpr (coincide_self h)

lemma beq_float_symm (h : (x == y) = true) : (y == x) = true :=
  beq_float_iff.mpr (beq_float_iff.mp h).symm

lemma beq_float_trans (h : (x == y) = true) (h' : (y == z) = true) : (x == z) = true :=
  beq_float_iff.mpr ((beq_float_iff.mp h).trans (beq_float_iff.mp h'))

end Floats

inductive Same : Value → Value → Prop
  | null : Same null null
  | boolean (b : Bool) : Same (boolean b) (boolean b)
  | integer (n : Int64) : Same (integer n) (integer n)
  | float {x y : Float} : (x == y) = true → Same (float x) (float y)
  | string (s : String) : Same (string s) (string s)
  | array {as bs : List Value} : List.Forall₂ Same as bs → Same (array as) (array bs)
  | map {es fs : List (String × Value)} :
      (∀ name, name ∈ Entries.keys es ↔ name ∈ Entries.keys fs) →
      (∀ name a b, (name, a) ∈ es → (name, b) ∈ fs → Same a b) → Same (map es) (map fs)

def NoNaN (v : Value) : Prop := ∀ x, float x ∈ v.parts → x.isNaN = false

section Lists

variable {R S : Value → Value → Prop} {as bs cs : List Value}

lemma forall₂_imp_mem (h : ∀ a ∈ as, ∀ b ∈ bs, R a b → S a b) (hab : List.Forall₂ R as bs) :
    List.Forall₂ S as bs := by
  induction hab with
  | nil => exact .nil
  | cons hr _ ih =>
    refine .cons (h _ List.mem_cons_self _ List.mem_cons_self hr) (ih fun a ha b hb => ?_)
    exact h a (List.mem_cons_of_mem _ ha) b (List.mem_cons_of_mem _ hb)

lemma forall₂_trans_mem {T : Value → Value → Prop}
    (h : ∀ a ∈ as, ∀ b ∈ bs, ∀ c ∈ cs, R a b → S b c → T a c) (hab : List.Forall₂ R as bs)
    (hbc : List.Forall₂ S bs cs) : List.Forall₂ T as cs := by
  induction hab generalizing cs with
  | nil =>
    cases hbc
    exact .nil
  | cons hr _ ih =>
    cases hbc with
    | cons hs hbc =>
      refine .cons (h _ List.mem_cons_self _ List.mem_cons_self _ List.mem_cons_self hr hs)
        (ih (fun a ha b hb c hc => ?_) hbc)
      exact h a (List.mem_cons_of_mem _ ha) b (List.mem_cons_of_mem _ hb) c
        (List.mem_cons_of_mem _ hc)

end Lists

variable {u v w : Value} {as bs : List Value} {es fs : List (String × Value)}

lemma beqItems_iff : beqItems as bs = true ↔ List.Forall₂ (fun a b => beq a b = true) as bs := by
  induction as generalizing bs with
  | nil => cases bs <;> simp [beqItems]
  | cons a as ih => cases bs <;> simp [beqItems, ih]

lemma beqEntries_iff : beqEntries es fs = true ↔
    ∀ e ∈ es, ∃ b, Entries.get? fs e.1 = some b ∧ beq e.2 b = true := by
  induction es with
  | nil => simp [beqEntries]
  | cons e es ih =>
    obtain ⟨name, a⟩ := e
    rw [beqEntries, Bool.and_eq_true, ih, List.forall_mem_cons]
    cases h : Entries.get? fs name <;> simp

lemma mem_keys_iff {name : String} : name ∈ Entries.keys es ↔ ∃ a, (name, a) ∈ es := by
  simp [Entries.keys]

lemma mem_keys_of_length_eq (hes : (Entries.keys es).Nodup) (hlength : es.length = fs.length)
    (hsub : ∀ name ∈ Entries.keys es, name ∈ Entries.keys fs) {name : String} :
    name ∈ Entries.keys es ↔ name ∈ Entries.keys fs := by
  have hsubperm : List.Subperm (Entries.keys es) (Entries.keys fs) := hes.subperm hsub
  have hperm := hsubperm.perm_of_length_le (by simp [Entries.keys, hlength])
  exact hperm.mem_iff

lemma length_eq_of_mem_keys (hes : (Entries.keys es).Nodup) (hfs : (Entries.keys fs).Nodup)
    (h : ∀ name, name ∈ Entries.keys es ↔ name ∈ Entries.keys fs) : es.length = fs.length := by
  have hperm := (List.perm_ext_iff_of_nodup hes hfs).mpr h
  simpa [Entries.keys] using hperm.length_eq

lemma same_of_beq (hv : v.NamesDistinct) (hw : w.NamesDistinct) (h : beq v w = true) :
    Same v w := by
  induction v using nested_induction generalizing w with
  | null =>
    cases w with
    | null => exact .null
    | _ => cases h
  | boolean a =>
    cases w with
    | boolean b =>
      obtain rfl : a = b := by simpa [beq] using h
      exact .boolean a
    | _ => cases h
  | integer m =>
    cases w with
    | integer n =>
      obtain rfl : m = n := by simpa [beq] using h
      exact .integer m
    | _ => cases h
  | float x =>
    cases w with
    | float y => exact .float h
    | _ => cases h
  | string s =>
    cases w with
    | string t =>
      obtain rfl : s = t := by simpa [beq] using h
      exact .string s
    | _ => cases h
  | array as ih =>
    cases w with
    | array bs =>
      rw [beq, beqItems_iff] at h
      rw [namesDistinct_array_iff] at hv hw
      refine .array (forall₂_imp_mem (fun a ha b hb hab => ?_) h)
      exact ih a ha (hv a ha) (hw b hb) hab
    | _ => cases h
  | map es ih =>
    cases w with
    | map fs =>
      rw [beq, Bool.and_eq_true, beq_iff_eq, beqEntries_iff] at h
      obtain ⟨hlength, hentries⟩ := h
      obtain ⟨hes, hv⟩ := namesDistinct_map_iff.mp hv
      obtain ⟨hfs, hw⟩ := namesDistinct_map_iff.mp hw
      refine .map (fun name => mem_keys_of_length_eq hes hlength ?_) fun name a b ha hb => ?_
      · intro name hname
        obtain ⟨a, ha⟩ := mem_keys_iff.mp hname
        obtain ⟨b, hb, _⟩ := hentries (name, a) ha
        exact mem_keys_iff.mpr ⟨b, Entries.mem_of_get? hb⟩
      · obtain ⟨b', hb', hab⟩ := hentries (name, a) ha
        obtain rfl := Entries.eq_of_mem hfs hb (Entries.mem_of_get? hb')
        exact ih (name, a) ha (hv _ ha) (hw _ hb) hab
    | _ => cases h

lemma beq_of_same (hv : v.NamesDistinct) (hw : w.NamesDistinct) (h : Same v w) :
    beq v w = true := by
  induction v using nested_induction generalizing w with
  | array as ih =>
    cases h with
    | @array _ bs h =>
      rw [namesDistinct_array_iff] at hv hw
      rw [beq, beqItems_iff]
      exact forall₂_imp_mem (fun a ha b hb hab => ih a ha (hv a ha) (hw b hb) hab) h
  | map es ih =>
    cases h with
    | @map _ fs hnames hvalues =>
      obtain ⟨hes, hv⟩ := namesDistinct_map_iff.mp hv
      obtain ⟨hfs, hw⟩ := namesDistinct_map_iff.mp hw
      rw [beq, Bool.and_eq_true, beq_iff_eq, beqEntries_iff]
      refine ⟨length_eq_of_mem_keys hes hfs hnames, fun e he => ?_⟩
      obtain ⟨b, hb⟩ := mem_keys_iff.mp ((hnames e.1).mp (mem_keys_iff.mpr ⟨e.2, he⟩))
      exact ⟨b, Entries.get?_of_mem hfs hb, ih e he (hv e he) (hw _ hb) (hvalues _ _ _ he hb)⟩
  | float x =>
    cases h with
    | float h => exact h
  | _ =>
    cases h
    simp [beq]

lemma beq_iff_same (hv : v.NamesDistinct) (hw : w.NamesDistinct) :
    (v == w) = true ↔ Same v w :=
  ⟨same_of_beq hv hw, beq_of_same hv hw⟩

lemma same_self (hv : v.NamesDistinct) (h : v.NoNaN) : Same v v := by
  induction v using nested_induction with
  | null => exact .null
  | boolean b => exact .boolean b
  | integer n => exact .integer n
  | float x => exact .float (beq_float_self (h x List.mem_cons_self))
  | string s => exact .string s
  | array as ih =>
    rw [namesDistinct_array_iff] at hv
    refine .array (List.forall₂_same.mpr fun a ha => ih a ha (hv a ha) ?_)
    exact fun x hx => h x (mem_parts_array.mpr (.inr ⟨a, ha, hx⟩))
  | map es ih =>
    obtain ⟨hes, hv⟩ := namesDistinct_map_iff.mp hv
    refine .map (fun _ => Iff.rfl) fun name a b ha hb => ?_
    obtain rfl := Entries.eq_of_mem hes ha hb
    refine ih (name, a) ha (hv _ ha) ?_
    exact fun x hx => h x (mem_parts_map.mpr (.inr ⟨_, ha, hx⟩))

lemma Same.symm (h : Same v w) : Same w v := by
  induction v using nested_induction generalizing w with
  | array as ih =>
    cases h with
    | @array _ bs h =>
      have hflip : List.Forall₂ (flip Same) as bs := forall₂_imp_mem (fun a ha _ _ => ih a ha) h
      exact .array hflip.flip
  | map es ih =>
    cases h with
    | map hnames hvalues =>
      refine .map (fun name => (hnames name).symm) fun name b a hb ha => ?_
      exact ih (name, a) ha (hvalues name a b ha hb)
  | float x =>
    cases h with
    | float h => exact .float (beq_float_symm h)
  | _ =>
    cases h
    constructor

lemma Same.trans (h : Same u v) (h' : Same v w) : Same u w := by
  induction u using nested_induction generalizing v w with
  | array as ih =>
    cases h with
    | array h =>
      cases h' with
      | array h' => exact .array (forall₂_trans_mem (S := Same) (fun a ha _ _ _ _ => ih a ha) h h')
  | map es ih =>
    cases h with
    | map hnames hvalues =>
      cases h' with
      | map hnames' hvalues' =>
        refine .map (fun name => (hnames name).trans (hnames' name)) fun name a c ha hc => ?_
        obtain ⟨b, hb⟩ := mem_keys_iff.mp ((hnames name).mp (mem_keys_iff.mpr ⟨a, ha⟩))
        exact ih (name, a) ha (hvalues name a b ha hb) (hvalues' name b c hb hc)
  | float x =>
    cases h with
    | float h =>
      cases h' with
      | float h' => exact .float (beq_float_trans h h')
  | _ =>
    cases h
    exact h'

lemma beq_comm (hv : v.NamesDistinct) (hw : w.NamesDistinct) : (v == w) = (w == v) := by
  rw [Bool.eq_iff_iff, beq_iff_same hv hw, beq_iff_same hw hv]
  exact ⟨Same.symm, Same.symm⟩

end Value

end Conform
