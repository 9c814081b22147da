/-!
Named entries in order of arrival. A new name goes to the end, a name that is already there keeps
its place and takes the new content. `OrderedMap` is the type of such lists without a repeated name.
-/

namespace Conform

theorem eraseDups_concat {α : Type} [DecidableEq α] (l : List α) (a : α) :
    (l ++ [a]).eraseDups = if a ∈ l then l.eraseDups else l.eraseDups ++ [a] := by
  rw [List.eraseDups_append]
  by_cases h : a ∈ l <;> simp [List.removeAll, h, List.eraseDups_cons]

abbrev Entries (α : Type) := List (String × α)

namespace Entries

variable {α : Type}

def keys (es : Entries α) : List String := es.map Prod.fst

def get? (es : Entries α) (key : String) : Option α := List.lookup key es

def insert : Entries α → String → α → Entries α
  | [], key, a => [(key, a)]
  | (k, b) :: es, key, a => if k = key then (k, a) :: es else (k, b) :: insert es key a

def merge (es fs : Entries α) : Entries α := fs.foldl (fun acc f => insert acc f.1 f.2) es

def ofList (es : Entries α) : Entries α := merge [] es

theorem keys_insert (es : Entries α) (key : String) (a : α) :
    keys (insert es key a) = if key ∈ keys es then keys es else keys es ++ [key] := by
  induction es with
  | nil => simp [insert, keys]
  | cons e es ih =>
    obtain ⟨k, b⟩ := e
    by_cases h : k = key
    · simp [insert, keys, h]
    · have h' : key ≠ k := fun e => h e.symm
      simp only [insert, if_neg h, keys, List.map_cons, List.mem_cons, h', false_or]
      simp only [keys] at ih
      by_cases hm : key ∈ List.map Prod.fst es <;> simp [ih, hm]

theorem nodup_insert {es : Entries α} (h : (keys es).Nodup) (key : String) (a : α) :
    (keys (insert es key a)).Nodup := by
  rw [keys_insert]
  split
  · exact h
  · next hk => exact List.nodup_append.2 ⟨h, by simp, by intro x hx y hy; simp at hy; grind⟩

theorem nodup_merge {es : Entries α} (h : (keys es).Nodup) (fs : Entries α) :
    (keys (merge es fs)).Nodup := by
  induction fs generalizing es with
  | nil => exact h
  | cons f fs ih => exact ih (nodup_insert h f.1 f.2)

theorem nodup_ofList (es : Entries α) : (keys (ofList es)).Nodup := by
  have h : (keys ([] : Entries α)).Nodup := List.nodup_nil
  exact nodup_merge h es

theorem get?_insert (es : Entries α) (key name : String) (a : α) :
    get? (insert es key a) name = if name = key then some a else get? es name := by
  induction es with
  | nil =>
    by_cases h : name = key
    · simp [insert, get?, h]
    · simp [insert, get?, h]
  | cons e es ih =>
    obtain ⟨k, b⟩ := e
    simp only [get?] at ih
    by_cases h : k = key
    · subst h
      by_cases hn : name = k
      · simp [insert, get?, hn]
      · simp [insert, get?, List.lookup_cons, beq_false_of_ne hn, hn]
    · by_cases hn : name = k
      · subst hn
        simp [insert, get?, h]
      · simp [insert, get?, List.lookup_cons, h, beq_false_of_ne hn, ih]

theorem get?_eq_none_iff {es : Entries α} {key : String} : get? es key = none ↔ key ∉ keys es := by
  rw [get?, List.lookup_eq_none_iff]
  simp only [keys, List.mem_map, Prod.exists, exists_and_right, exists_eq_right, not_exists]
  exact ⟨fun h a ha => by simpa using h _ ha, fun h e he => bne_iff_ne.2 fun hk => h e.2 (hk ▸ he)⟩

theorem insert_of_not_mem {es : Entries α} {key : String} (h : key ∉ keys es) (a : α) :
    insert es key a = es ++ [(key, a)] := by
  induction es with
  | nil => rfl
  | cons e es ih =>
    obtain ⟨hk, hes⟩ := not_or.1 (fun hm => h (List.mem_cons.2 hm))
    rw [insert, if_neg (fun he => hk he.symm), ih hes, List.cons_append]

theorem mem_of_get? {es : Entries α} {key : String} {a : α} (h : get? es key = some a) :
    (key, a) ∈ es := by
  obtain ⟨front, back, rfl, _⟩ := List.lookup_eq_some_iff.1 h
  simp

theorem get?_of_mem {es : Entries α} (h : (keys es).Nodup) {key : String} {a : α}
    (ha : (key, a) ∈ es) : get? es key = some a := by
  induction es with
  | nil => cases ha
  | cons e es ih =>
    obtain ⟨hfresh, hnodup⟩ := List.nodup_cons.1 h
    rcases List.mem_cons.1 ha with rfl | ha
    · simp [get?]
    · have hne : key ≠ e.1 := fun hk => hfresh (List.mem_map.2 ⟨(key, a), ha, hk⟩)
      rw [get?, List.lookup_cons, beq_false_of_ne hne]
      exact ih hnodup ha

theorem eq_of_mem {es : Entries α} (h : (keys es).Nodup) {key : String} {a b : α}
    (ha : (key, a) ∈ es) (hb : (key, b) ∈ es) : a = b :=
  Option.some.inj ((get?_of_mem h ha).symm.trans (get?_of_mem h hb))

theorem mem_insert {es : Entries α} {key : String} {a : α} {e : String × α}
    (h : e ∈ insert es key a) : e = (key, a) ∨ e ∈ es := by
  induction es with
  | nil => exact .inl (List.mem_singleton.1 h)
  | cons f es ih =>
    obtain ⟨k, b⟩ := f
    by_cases hk : k = key
    · simp only [insert, if_pos hk, List.mem_cons] at h
      rcases h with rfl | h
      · exact .inl (by rw [hk])
      · exact .inr (List.mem_cons_of_mem _ h)
    · simp only [insert, if_neg hk, List.mem_cons] at h
      rcases h with rfl | h
      · exact .inr List.mem_cons_self
      · exact (ih h).imp id (List.mem_cons_of_mem _)

theorem mem_of_mem_merge {es fs : Entries α} {e : String × α} (h : e ∈ merge es fs) :
    e ∈ es ∨ e ∈ fs := by
  induction fs generalizing es with
  | nil => exact .inl h
  | cons f fs ih =>
    rcases ih h with h | h
    · rcases mem_insert h with rfl | h
      · exact .inr List.mem_cons_self
      · exact .inl h
    · exact .inr (List.mem_cons_of_mem _ h)

theorem mem_of_mem_ofList {es : Entries α} {e : String × α} (h : e ∈ ofList es) : e ∈ es :=
  (mem_of_mem_merge h).resolve_left List.not_mem_nil

theorem get?_merge {es fs : Entries α} (h : (keys fs).Nodup) (key : String) :
    get? (merge es fs) key = (get? fs key).or (get? es key) := by
  induction fs generalizing es with
  | nil => simp [merge, get?]
  | cons f fs ih =>
    obtain ⟨k, b⟩ := f
    obtain ⟨hk, hfs⟩ := List.nodup_cons.1 h
    have hmerge : merge es ((k, b) :: fs) = merge (insert es k b) fs := rfl
    rw [hmerge, ih hfs, get?_insert]
    by_cases hn : key = k
    · -- the name does not come again
      have hnone : get? fs key = none := get?_eq_none_iff.2 (hn ▸ hk)
      have hsome : get? ((k, b) :: fs) key = some b := by simp [get?, hn]
      rw [if_pos hn, hnone, hsome, Option.none_or, Option.some_or]
    · have hnext : get? ((k, b) :: fs) key = get? fs key := by
        simp [get?, List.lookup_cons, beq_false_of_ne hn]
      rw [if_neg hn, hnext]

theorem merge_of_fresh {es fs : Entries α} (h : (keys (es ++ fs)).Nodup) : merge es fs = es ++ fs := by
  induction fs generalizing es with
  | nil => simp [merge]
  | cons f fs ih =>
    have hsplit : es ++ f :: fs = (es ++ [f]) ++ fs := by simp
    have hk : f.1 ∉ keys es := by
      intro hm
      rw [keys, List.map_append, List.nodup_append] at h
      exact h.2.2 f.1 hm f.1 List.mem_cons_self rfl
    have hmerge : merge es (f :: fs) = merge (insert es f.1 f.2) fs := rfl
    rw [hmerge, insert_of_not_mem hk, hsplit]
    exact ih (hsplit ▸ h)

theorem ofList_of_nodup {es : Entries α} (h : (keys es).Nodup) : ofList es = es := by
  have hfresh : merge [] es = [] ++ es := merge_of_fresh h
  rw [ofList, hfresh, List.nil_append]

variable {β : Type}

def mapValues (f : String → α → β) (es : Entries α) : Entries β :=
  List.map (fun e => (e.1, f e.1 e.2)) es

theorem keys_mapValues (f : String → α → β) (es : Entries α) : keys (mapValues f es) = keys es := by
  simp [keys, mapValues, Function.comp_def]

theorem get?_mapValues (f : String → α → β) (es : Entries α) (key : String) :
    get? (mapValues f es) key = (get? es key).map (f key) := by
  induction es with
  | nil => rfl
  | cons e es ih =>
    obtain ⟨k, b⟩ := e
    simp only [get?, mapValues] at ih
    by_cases h : key = k
    · simp [mapValues, get?, h]
    · simp [mapValues, get?, List.lookup_cons, beq_false_of_ne h, ih]

theorem mapValues_insert (f : String → α → β) (es : Entries α) (key : String) (a : α) :
    mapValues f (insert es key a) = insert (mapValues f es) key (f key a) := by
  induction es with
  | nil => rfl
  | cons e es ih =>
    obtain ⟨k, b⟩ := e
    simp only [mapValues] at ih
    by_cases h : k = key
    · simp [mapValues, insert, h]
    · simp [mapValues, insert, h, ih]

end Entries

structure OrderedMap (α : Type) where
  entries : Entries α
  nodup : (Entries.keys entries).Nodup

namespace OrderedMap

variable {α : Type}

def empty : OrderedMap α := ⟨[], List.nodup_nil⟩

instance : Inhabited (OrderedMap α) := ⟨empty⟩

def keys (m : OrderedMap α) : List String := Entries.keys m.entries

def values (m : OrderedMap α) : List α := m.entries.map Prod.snd

def get? (m : OrderedMap α) (key : String) : Option α := Entries.get? m.entries key

def contains (m : OrderedMap α) (key : String) : Bool := (m.get? key).isSome

def size (m : OrderedMap α) : Nat := m.entries.length

def isEmpty (m : OrderedMap α) : Bool := m.entries.isEmpty

def insert (m : OrderedMap α) (key : String) (a : α) : OrderedMap α :=
  ⟨Entries.insert m.entries key a, Entries.nodup_insert m.nodup key a⟩

theorem get?_insert (m : OrderedMap α) (key name : String) (a : α) :
    (m.insert key a).get? name = if name = key then some a else m.get? name :=
  Entries.get?_insert m.entries key name a

theorem keys_insert (m : OrderedMap α) (key : String) (a : α) :
    (m.insert key a).keys = if key ∈ m.keys then m.keys else m.keys ++ [key] :=
  Entries.keys_insert m.entries key a

theorem keys_eq_nil_iff (m : OrderedMap α) : m.keys = [] ↔ m.isEmpty = true := by
  simp [keys, Entries.keys, isEmpty]

def merge (m n : OrderedMap α) : OrderedMap α :=
  ⟨Entries.merge m.entries n.entries, Entries.nodup_merge m.nodup n.entries⟩

theorem get?_merge (m n : OrderedMap α) (key : String) :
    (m.merge n).get? key = (n.get? key).or (m.get? key) :=
  Entries.get?_merge n.nodup key

def ofList (es : Entries α) : OrderedMap α :=
  ⟨Entries.ofList es, Entries.nodup_ofList es⟩

def mapValues {β : Type} (f : String → α → β) (m : OrderedMap α) : OrderedMap β :=
  ⟨Entries.mapValues f m.entries, Entries.keys_mapValues f m.entries ▸ m.nodup⟩

theorem get?_mapValues {β : Type} (f : String → α → β) (m : OrderedMap α) (key : String) :
    (m.mapValues f).get? key = (m.get? key).map (f key) :=
  Entries.get?_mapValues f m.entries key

theorem mapValues_insert {β : Type} (f : String → α → β) (m : OrderedMap α) (key : String) (a : α) :
    (m.insert key a).mapValues f = (m.mapValues f).insert key (f key a) := by
  simp only [mapValues, insert, Entries.mapValues_insert]

theorem mem_of_get?_foldl_insert {name : α → String} {as : List α} {m : OrderedMap α} {key : String}
    {a : α} (h : (as.foldl (fun m b => m.insert (name b) b) m).get? key = some a) :
    a ∈ as ∨ m.get? key = some a := by
  induction as generalizing m with
  | nil => exact .inr h
  | cons b as ih =>
    rcases ih h with h | h
    · exact .inl (List.mem_cons_of_mem b h)
    · rw [get?_insert] at h
      split at h
      · exact .inl (List.mem_cons.2 (.inl (Option.some.inj h).symm))
      · exact .inr h

def Named (name : α → String) (m : OrderedMap α) : Prop := ∀ e ∈ m.entries, name e.2 = e.1

theorem named_empty (name : α → String) : Named name empty := by
  intro e he
  cases he

theorem Named.insert {name : α → String} {m : OrderedMap α} (h : m.Named name) (a : α) :
    (m.insert (name a) a).Named name := by
  intro e he
  rcases Entries.mem_insert he with rfl | he
  · rfl
  · exact h e he

theorem Named.of_get? {name : α → String} {m : OrderedMap α} {key : String} {a : α}
    (h : m.Named name) (hk : m.get? key = some a) : name a = key :=
  h _ (Entries.mem_of_get? hk)

end OrderedMap

end Conform
