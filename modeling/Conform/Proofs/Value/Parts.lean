import Conform.Value
import Mathlib.Data.Nat.Basic

/-! What stands inside a value, at any depth. The invariants of data, such as that no map names an
entry twice, are said of all the parts of a value at once. -/

namespace Conform

namespace Value

mutual

def depth : Value → Nat
  | array items => depthOf items + 1
  | map entries => depthIn entries + 1
  | _ => 0

def depthOf : List Value → Nat
  | [] => 0
  | v :: vs => max (depth v) (depthOf vs)

def depthIn : List (String × Value) → Nat
  | [] => 0
  | (_, v) :: es => max (depth v) (depthIn es)

end

mutual

def parts : Value → List Value
  | array items => array items :: partsOf items
  | map entries => map entries :: partsIn entries
  | v => [v]

def partsOf : List Value → List Value
  | [] => []
  | v :: vs => parts v ++ partsOf vs

def partsIn : List (String × Value) → List Value
  | [] => []
  | (_, v) :: es => parts v ++ partsIn es

end

def NamesDistinct (v : Value) : Prop := ∀ entries, map entries ∈ v.parts → (Entries.keys entries).Nodup

lemma namesDistinct_iff {v : Value} :
    v.NamesDistinct ↔ ∀ entries ∈ v.parts.filterMap map?, (Entries.keys entries).Nodup := by
  constructor
  · intro h entries he
    obtain ⟨w, hw, hmap⟩ := List.mem_filterMap.mp he
    cases w <;> cases hmap
    exact h entries hw
  · exact fun h entries he => h entries (List.mem_filterMap.mpr ⟨_, he, rfl⟩)

instance (v : Value) : Decidable v.NamesDistinct := decidable_of_iff _ namesDistinct_iff.symm

variable {v : Value} {items : List Value} {entries : List (String × Value)}

lemma depth_le_of_mem (h : v ∈ items) : v.depth ≤ depthOf items := by
  induction items with
  | nil => cases h
  | cons w items ih =>
    rw [depthOf]
    rcases List.mem_cons.mp h with rfl | h
    · exact le_max_left _ _
    · exact Nat.le_trans (ih h) (le_max_right _ _)

lemma depth_le_of_entry {e : String × Value} (h : e ∈ entries) : e.2.depth ≤ depthIn entries := by
  induction entries with
  | nil => cases h
  | cons f entries ih =>
    rw [depthIn]
    rcases List.mem_cons.mp h with rfl | h
    · exact le_max_left _ _
    · exact Nat.le_trans (ih h) (le_max_right _ _)

lemma partsOf_eq_flatMap : partsOf items = items.flatMap parts := by
  induction items with
  | nil => rfl
  | cons v items ih => rw [partsOf, List.flatMap_cons, ih]

lemma partsIn_eq_flatMap : partsIn entries = entries.flatMap fun e => parts e.2 := by
  induction entries with
  | nil => rfl
  | cons e entries ih => rw [partsIn, List.flatMap_cons, ih]

lemma mem_parts_array {w : Value} :
    w ∈ (array items).parts ↔ w = array items ∨ ∃ v ∈ items, w ∈ v.parts := by
  rw [parts, List.mem_cons, partsOf_eq_flatMap, List.mem_flatMap]

lemma mem_parts_map {w : Value} :
    w ∈ (map entries).parts ↔ w = map entries ∨ ∃ e ∈ entries, w ∈ e.2.parts := by
  rw [parts, List.mem_cons, partsIn_eq_flatMap, List.mem_flatMap]

lemma namesDistinct_array_iff :
    (array items).NamesDistinct ↔ ∀ v ∈ items, v.NamesDistinct := by
  constructor
  · intro h v hv entries he
    exact h entries (mem_parts_array.mpr (.inr ⟨v, hv, he⟩))
  · intro h entries he
    rcases mem_parts_array.mp he with he | ⟨v, hv, he⟩
    · cases he
    · exact h v hv entries he

lemma namesDistinct_map_iff :
    (map entries).NamesDistinct ↔
      (Entries.keys entries).Nodup ∧ ∀ e ∈ entries, e.2.NamesDistinct := by
  constructor
  · intro h
    refine ⟨h entries (mem_parts_map.mpr (.inl rfl)), fun e he inner hi => ?_⟩
    exact h inner (mem_parts_map.mpr (.inr ⟨e, he, hi⟩))
  · rintro ⟨hnodup, h⟩ inner hi
    rcases mem_parts_map.mp hi with hi | ⟨e, he, hi⟩
    · cases hi
      exact hnodup
    · exact h e he inner hi

lemma namesDistinct_of_not_nested (h : v.parts = [v]) (hmap : ∀ entries, v ≠ map entries) :
    v.NamesDistinct := by
  intro entries he
  rw [h] at he
  exact absurd (List.mem_singleton.mp he).symm (hmap entries)

theorem nested_induction {P : Value → Prop} (null : P null) (boolean : ∀ b, P (boolean b))
    (integer : ∀ n, P (integer n)) (float : ∀ x, P (float x)) (string : ∀ s, P (string s))
    (array : ∀ items, (∀ v ∈ items, P v) → P (array items))
    (map : ∀ entries, (∀ e ∈ entries, P e.2) → P (map entries)) (v : Value) : P v := by
  refine @Value.rec P (fun items => ∀ v ∈ items, P v) (fun entries => ∀ e ∈ entries, P e.2)
    (fun e => P e.2) null boolean integer float string array map ?_ ?_ ?_ ?_ ?_ v
  · exact nofun
  · exact fun v vs hv hvs => List.forall_mem_cons.mpr ⟨hv, hvs⟩
  · exact nofun
  · exact fun e es he hes => List.forall_mem_cons.mpr ⟨he, hes⟩
  · exact fun name v hv => hv

end Value

end Conform
