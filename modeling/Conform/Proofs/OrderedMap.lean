import Conform.OrderedMap
import Mathlib.Data.List.Induction
import Mathlib.Data.List.Nodup

/-! An ordered map is known by its names, in their order, and by the content under each of them. Merging
decides the two apart: a name keeps the place where it came first, its content is what came last. -/

namespace Conform

section Names

variable {α : Type} [DecidableEq α] {l : List α}

lemma nodup_eraseDups (l : List α) : l.eraseDups.Nodup := by
  induction l using List.reverseRecOn with
  | nil => exact List.nodup_nil
  | append_singleton l a ih =>
    rw [eraseDups_concat]
    by_cases h : a ∈ l
    · rwa [if_pos h]
    · rw [if_neg h, List.nodup_append_comm]
      exact List.nodup_cons.mpr ⟨fun hm => h (List.mem_eraseDups.mp hm), ih⟩

lemma eraseDups_of_nodup (h : l.Nodup) : l.eraseDups = l := by
  induction l using List.reverseRecOn with
  | nil => rfl
  | append_singleton l a ih =>
    rw [List.nodup_append_comm, List.singleton_append, List.nodup_cons] at h
    rw [eraseDups_concat, if_neg h.1, ih h.2]

lemma eraseDups_append_self (h : l.Nodup) : (l ++ l).eraseDups = l := by
  have hnone : l.removeAll l = [] := by simp [List.removeAll]
  rw [List.eraseDups_append, hnone, List.eraseDups_nil, List.append_nil, eraseDups_of_nodup h]

lemma eraseDups_eraseDups_append (l k : List α) :
    (l.eraseDups ++ k).eraseDups = (l ++ k).eraseDups := by
  have hleft : l.eraseDups.eraseDups = l.eraseDups := eraseDups_of_nodup (nodup_eraseDups l)
  have hright : k.removeAll l.eraseDups = k.removeAll l := by simp [List.removeAll]
  rw [List.eraseDups_append, List.eraseDups_append, hleft, hright]

lemma eraseDups_append_eraseDups (l k : List α) :
    (l ++ k.eraseDups).eraseDups = (l ++ k).eraseDups := by
  induction k using List.reverseRecOn with
  | nil => rfl
  | append_singleton k a ih =>
    rw [← List.append_assoc, eraseDups_concat (l ++ k), eraseDups_concat k]
    by_cases ha : a ∈ k
    · rw [if_pos ha, if_pos (List.mem_append_right l ha), ih]
    · rw [if_neg ha, ← List.append_assoc, eraseDups_concat, ih]
      simp only [List.mem_append, List.mem_eraseDups]

end Names

namespace Entries

variable {α : Type} {es fs : Entries α} {key : String}

lemma merge_concat (es fs : Entries α) (f : String × α) :
    merge es (fs ++ [f]) = insert (merge es fs) f.1 f.2 := by
  rw [merge, List.foldl_concat, ← merge]

lemma keys_concat (es : Entries α) (e : String × α) : keys (es ++ [e]) = keys es ++ [e.1] := by
  rw [keys, List.map_append, List.map_singleton, ← keys]

lemma keys_merge (h : (keys es).Nodup) (fs : Entries α) :
    keys (merge es fs) = (keys es ++ keys fs).eraseDups := by
  induction fs using List.reverseRecOn with
  | nil =>
    have hnil : keys es ++ keys ([] : Entries α) = keys es := List.append_nil _
    rw [hnil, eraseDups_of_nodup h]
    rfl
  | append_singleton fs f ih =>
    rw [merge_concat, keys_insert, ih, keys_concat, ← List.append_assoc, eraseDups_concat]
    simp only [List.mem_eraseDups]

lemma keys_ofList (es : Entries α) : keys (ofList es) = (keys es).eraseDups := by
  have hnil : (keys ([] : Entries α)).Nodup := List.nodup_nil
  exact keys_merge hnil es

lemma get?_cons (e : String × α) (es : Entries α) (key : String) :
    get? (e :: es) key = if key = e.1 then some e.2 else get? es key := by
  obtain ⟨name, a⟩ := e
  by_cases h : key = name
  · simp [get?, h]
  · simp [get?, List.lookup_cons, beq_false_of_ne h, h]

lemma get?_ofList (es : Entries α) (key : String) : get? (ofList es) key = get? es.reverse key := by
  induction es using List.reverseRecOn with
  | nil => rfl
  | append_singleton es e ih =>
    rw [ofList] at ih
    rw [ofList, merge_concat, get?_insert, List.reverse_concat, get?_cons, ih]

lemma eq_of_keys_of_get? (h : (keys es).Nodup) (hkeys : keys es = keys fs)
    (hget : ∀ key, get? es key = get? fs key) : es = fs := by
  induction es generalizing fs with
  | nil =>
    have hnil : fs = [] := List.map_eq_nil_iff.mp hkeys.symm
    rw [hnil]
  | cons e es ih =>
    cases fs with
    | nil => cases hkeys
    | cons f fs =>
      have hname : e.1 = f.1 := (List.cons.inj hkeys).1
      have hrest : keys es = keys fs := (List.cons.inj hkeys).2
      obtain ⟨hfresh, hnodup⟩ := List.nodup_cons.mp h
      have hhead := hget e.1
      rw [get?_cons, get?_cons, if_pos rfl, if_pos hname] at hhead
      have htail (key : String) : get? es key = get? fs key := by
        by_cases hk : key = e.1
        · rw [hk, get?_eq_none_iff.mpr hfresh]
          exact (get?_eq_none_iff.mpr (hrest ▸ hfresh)).symm
        · have hkey := hget key
          rwa [get?_cons, get?_cons, if_neg hk, if_neg (hname ▸ hk)] at hkey
      rw [Prod.ext hname (Option.some.inj hhead), ih hnodup hrest htail]

lemma eq_ofList_iff : fs = ofList es ↔
    keys fs = (keys es).eraseDups ∧ ∀ key, get? fs key = get? es.reverse key := by
  constructor
  · rintro rfl
    exact ⟨keys_ofList es, get?_ofList es⟩
  · rintro ⟨hkeys, hget⟩
    refine eq_of_keys_of_get? (hkeys ▸ nodup_eraseDups _) ?_ fun key => ?_
    · rw [hkeys, keys_ofList]
    · rw [hget, get?_ofList]

end Entries

namespace OrderedMap

variable {α : Type} {m n : OrderedMap α}

lemma eq_of_keys_of_get? (hkeys : m.keys = n.keys) (hget : ∀ key, m.get? key = n.get? key) :
    m = n := by
  obtain ⟨es, hes⟩ := m
  obtain ⟨fs, hfs⟩ := n
  obtain rfl : es = fs := Entries.eq_of_keys_of_get? hes hkeys hget
  rfl

lemma nodup_keys (m : OrderedMap α) : m.keys.Nodup := m.nodup

lemma keys_merge (m n : OrderedMap α) : (m.merge n).keys = (m.keys ++ n.keys).eraseDups :=
  Entries.keys_merge m.nodup n.entries

lemma merge_assoc (l m n : OrderedMap α) : (l.merge m).merge n = l.merge (m.merge n) := by
  apply eq_of_keys_of_get?
  · simp only [keys_merge]
    rw [eraseDups_eraseDups_append, eraseDups_append_eraseDups, List.append_assoc]
  · intro key
    simp only [get?_merge, Option.or_assoc]

lemma empty_merge (m : OrderedMap α) : empty.merge m = m := by
  apply eq_of_keys_of_get?
  · rw [keys_merge]
    exact eraseDups_of_nodup m.nodup_keys
  · intro key
    rw [get?_merge]
    exact Option.or_none

lemma merge_empty (m : OrderedMap α) : m.merge empty = m := rfl

lemma merge_self (m : OrderedMap α) : m.merge m = m := by
  apply eq_of_keys_of_get?
  · rw [keys_merge, eraseDups_append_self m.nodup_keys]
  · intro key
    rw [get?_merge, Option.or_self]

end OrderedMap

end Conform
