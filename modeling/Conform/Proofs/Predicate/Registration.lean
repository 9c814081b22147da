import Conform.Predicate.Registry
import Conform.Proofs.OrderedMap
import Mathlib.Data.Finset.Card
import Mathlib.Data.List.Dedup
import Mathlib.Data.String.Basic

/-! A registry as a function of its history. The table of predicates and the index of categories are
kept apart, and every registration changes both: after any number of them the index still holds each
name once, under the category of the predicate that the table has for it. -/

namespace Conform

lemma dedup_concat {α : Type} [DecidableEq α] (l : List α) (a : α) :
    (l ++ [a]).dedup = (l.dedup.filter fun b => b ≠ a) ++ [a] := by
  induction l with
  | nil => rfl
  | cons b l ih =>
    by_cases hb : b ∈ l
    · have hmem : b ∈ l ++ [a] := List.mem_append_left [a] hb
      rw [List.cons_append, List.dedup_cons_of_mem hmem, List.dedup_cons_of_mem hb, ih]
    · by_cases ha : b = a
      · have hmem : b ∈ l ++ [a] := by simp [ha]
        rw [List.cons_append, List.dedup_cons_of_mem hmem, List.dedup_cons_of_notMem hb, ih,
          List.filter_cons_of_neg (by simp [ha])]
      · have hmem : b ∉ l ++ [a] := by simp [ha, hb]
        rw [List.cons_append, List.dedup_cons_of_notMem hmem, List.dedup_cons_of_notMem hb, ih,
          List.filter_cons_of_pos (by simp [ha]), List.cons_append]

namespace PredicateRegistry

inductive Records : PredicateRegistry → List Predicate → Prop
  | empty : Records empty []
  | builtin : Records builtin Predicate.builtins
  | register {registry history} (p : Predicate) :
      Records registry history → Records (registry.register p) (history ++ [p])

structure Indexed (registry : PredicateRegistry) (history : List Predicate) : Prop where
  names : registry.names = (history.map Predicate.name).eraseDups
  get? : ∀ name, registry.get? name = history.reverse.find? fun p => p.name = name
  index : registry.index.map Prod.snd = (history.map Predicate.name).dedup
  category : ∀ e ∈ registry.index, (registry.get? e.2).map Predicate.category = some e.1

variable {registry : PredicateRegistry} {history : List Predicate}

lemma get?_register (registry : PredicateRegistry) (p : Predicate) (name : String) :
    (registry.register p).get? name = if name = p.name then some p else registry.get? name :=
  OrderedMap.get?_insert registry.predicates p.name name p

lemma names_register (registry : PredicateRegistry) (p : Predicate) :
    (registry.register p).names
      = if p.name ∈ registry.names then registry.names else registry.names ++ [p.name] :=
  OrderedMap.keys_insert registry.predicates p.name p

lemma index_register (hcategory : ∀ e ∈ registry.index,
      (registry.get? e.2).map Predicate.category = some e.1) (p : Predicate) :
    (registry.register p).index
      = (registry.index.filter fun e => e.2 ≠ p.name) ++ [(p.category, p.name)] := by
  cases hp : registry.get? p.name with
  | none =>
    have hfresh : ∀ e ∈ registry.index, e.2 ≠ p.name := by
      intro e he hname
      have hcat := hcategory e he
      rw [hname, hp] at hcat
      cases hcat
    have hself : (registry.index.filter fun e => e.2 ≠ p.name) = registry.index :=
      List.filter_eq_self.mpr fun e he => by simpa using hfresh e he
    rw [get?] at hp
    simp only [PredicateRegistry.register, hp, hself]
  | some previous =>
    have hone : ∀ e ∈ registry.index, (e != (previous.category, p.name)) = decide (e.2 ≠ p.name) := by
      intro e he
      have hiff : e = (previous.category, p.name) ↔ e.2 = p.name := by
        refine ⟨fun h => h ▸ rfl, fun hname => ?_⟩
        have hcat := hcategory e he
        rw [hname, hp] at hcat
        exact Prod.ext (Option.some.inj hcat).symm hname
      rw [Bool.eq_iff_iff, bne_iff_ne, decide_eq_true_iff, Ne, hiff]
    rw [get?] at hp
    simp only [PredicateRegistry.register, hp, List.filter_congr hone]

lemma indexed_empty : Indexed empty [] where
  names := rfl
  get? _ := rfl
  index := rfl
  category := nofun

lemma Indexed.register (h : Indexed registry history) (p : Predicate) :
    Indexed (registry.register p) (history ++ [p]) where
  names := by
    rw [names_register, h.names, List.map_append, List.map_singleton, eraseDups_concat]
    simp only [List.mem_eraseDups]
  get? name := by
    rw [get?_register, h.get?, List.reverse_concat, List.find?_cons]
    by_cases hn : name = p.name
    · simp [hn]
    · have hn' : ¬ p.name = name := fun he => hn he.symm
      simp [hn, hn']
  index := by
    have hnames : (registry.index.filter fun e => e.2 ≠ p.name).map Prod.snd
        = (registry.index.map Prod.snd).filter fun name => name ≠ p.name := by
      rw [List.filter_map]
      rfl
    rw [index_register h.category, List.map_append, hnames, h.index, List.map_append,
      List.map_singleton, List.map_singleton, dedup_concat]
  category e he := by
    rw [index_register h.category] at he
    rw [get?_register]
    rcases List.mem_append.mp he with he | he
    · obtain ⟨he, hne⟩ := List.mem_filter.mp he
      rw [if_neg (by simpa using hne)]
      exact h.category e he
    · rw [List.mem_singleton.mp he, if_pos rfl]
      rfl

lemma Indexed.foldl (h : Indexed registry history) (ps : List Predicate) :
    Indexed (ps.foldl PredicateRegistry.register registry) (history ++ ps) := by
  induction ps generalizing registry history with
  | nil => simpa using h
  | cons p ps ih =>
    have hsplit : history ++ p :: ps = (history ++ [p]) ++ ps := by simp
    rw [List.foldl_cons, hsplit]
    exact ih (h.register p)

lemma Records.indexed (h : Records registry history) : Indexed registry history := by
  induction h with
  | empty => exact indexed_empty
  | builtin => exact indexed_empty.foldl Predicate.builtins
  | register p _ ih => exact ih.register p

lemma byCategory_eq_filter (h : Indexed registry history) (c : Category) :
    registry.byCategory c = (history.map Predicate.name).dedup.filter fun name =>
      (registry.get? name).map Predicate.category = some c := by
  rw [← h.index, List.filter_map, byCategory]
  congr 1
  refine List.filter_congr fun e he => ?_
  rw [Function.comp_apply, h.category e he]
  simp [beq_eq_decide]

lemma mem_names_iff {name : String} : name ∈ registry.names ↔ ∃ p, registry.get? name = some p := by
  rw [← Option.ne_none_iff_exists', Ne, get?, OrderedMap.get?, Entries.get?_eq_none_iff, not_not]
  rfl

lemma mem_byCategory_iff (h : Indexed registry history) {name : String} {c : Category} :
    name ∈ registry.byCategory c ↔ (registry.get? name).map Predicate.category = some c := by
  rw [byCategory_eq_filter h, List.mem_filter, List.mem_dedup, decide_eq_true_iff,
    and_iff_right_iff_imp]
  intro hc
  obtain ⟨p, hp, _⟩ := Option.map_eq_some_iff.mp hc
  rw [← List.mem_eraseDups, ← h.names]
  exact mem_names_iff.mpr ⟨p, hp⟩

lemma nodup_byCategory (h : Indexed registry history) (c : Category) :
    (registry.byCategory c).Nodup := by
  rw [byCategory_eq_filter h]
  exact (List.nodup_dedup _).filter _

lemma nodup_names (registry : PredicateRegistry) : registry.names.Nodup :=
  registry.predicates.nodup

lemma size_eq_card (registry : PredicateRegistry) :
    registry.size = registry.names.toFinset.card := by
  rw [List.toFinset_card_of_nodup (nodup_names registry)]
  exact (List.length_map Prod.fst).symm

lemma mem_values_iff {p : Predicate} :
    p ∈ registry.predicates.values ↔ registry.get? p.name = some p := by
  constructor
  · intro hp
    obtain ⟨⟨name, q⟩, he, rfl⟩ := List.mem_map.mp hp
    have hname : q.name = name := registry.named _ he
    subst hname
    exact Entries.get?_of_mem registry.predicates.nodup he
  · intro hp
    exact List.mem_map.mpr ⟨(p.name, p), Entries.mem_of_get? hp, rfl⟩

lemma map_name_values (registry : PredicateRegistry) :
    registry.predicates.values.map Predicate.name = registry.names := by
  rw [OrderedMap.values, names, OrderedMap.keys, Entries.keys, List.map_map]
  exact List.map_congr_left fun e he => registry.named e he

lemma filterMap_names (registry : PredicateRegistry) :
    registry.names.filterMap registry.get? = registry.predicates.values := by
  rw [← map_name_values, List.filterMap_map]
  have hget : ∀ p ∈ registry.predicates.values, (registry.get? ∘ Predicate.name) p = some p :=
    fun p hp => mem_values_iff.mp hp
  rw [List.filterMap_congr hget, List.filterMap_some]

section Groups

variable {ps : List Predicate} {c : Category}

lemma addToGroup_map {cs : List Category} (hcs : cs.Nodup) (f : Category → List Predicate)
    (p : Predicate) (hf : p.category ∉ cs → f p.category = []) :
    addToGroup (cs.map fun c => (c, f c)) p
      = (if p.category ∈ cs then cs else cs ++ [p.category]).map fun c =>
          (c, if c = p.category then f c ++ [p] else f c) := by
  induction cs with
  | nil => simp [addToGroup, hf List.not_mem_nil]
  | cons c cs ih =>
    obtain ⟨hc, hcs⟩ := List.nodup_cons.mp hcs
    by_cases h : c = p.category
    · have hrest : ∀ d ∈ cs, (d, f d) = (d, if d = p.category then f d ++ [p] else f d) := by
        intro d hd
        have hne : ¬ d = p.category := fun he => hc (h ▸ he ▸ hd)
        rw [if_neg hne]
      simp [addToGroup, h, List.map_congr_left hrest]
    · have h' : ¬ p.category = c := fun he => h he.symm
      have hrest := ih hcs fun hn => hf (by simp [hn, h'])
      by_cases hm : p.category ∈ cs <;> simp [addToGroup, h, h', hm, hrest]

lemma foldl_addToGroup (ps : List Predicate) :
    ps.foldl addToGroup [] = (ps.map Predicate.category).eraseDups.map fun c =>
      (c, ps.filter fun p => p.category = c) := by
  induction ps using List.reverseRecOn with
  | nil => rfl
  | append_singleton ps p ih =>
    have hnone : p.category ∉ (ps.map Predicate.category).eraseDups →
        (ps.filter fun q => q.category = p.category) = [] := by
      intro hc
      rw [List.filter_eq_nil_iff]
      intro q hq he
      exact hc (List.mem_eraseDups.mpr (List.mem_map.mpr ⟨q, hq, of_decide_eq_true he⟩))
    rw [List.foldl_concat, ih, addToGroup_map (nodup_eraseDups _) _ p hnone, List.map_append,
      List.map_singleton, eraseDups_concat]
    simp only [List.mem_eraseDups, List.filter_append]
    refine List.map_congr_left fun c _ => ?_
    by_cases hc : c = p.category
    · simp [hc]
    · have hc' : ¬ p.category = c := fun he => hc he.symm
      simp [hc, hc']

lemma grouped_eq_map (registry : PredicateRegistry) :
    registry.grouped = (registry.predicates.values.map Predicate.category).eraseDups.map fun c =>
      (c, sortByName (registry.predicates.values.filter fun p => p.category = c)) := by
  rw [grouped, foldl_addToGroup, List.map_map]
  rfl

lemma pairwise_sortByName (h : (ps.map Predicate.name).Nodup) :
    (sortByName ps).Pairwise fun p q => p.name < q.name := by
  have hle : (sortByName ps).Pairwise fun p q => decide (p.name ≤ q.name) = true := by
    apply List.pairwise_mergeSort
    · intro p q r hpq hqr
      rw [decide_eq_true_iff] at hpq hqr ⊢
      exact le_trans hpq hqr
    · intro p q
      simpa using le_total p.name q.name
  have hne : (sortByName ps).Pairwise fun p q => p.name ≠ q.name := by
    have hperm : (sortByName ps).Perm ps := List.mergeSort_perm ps _
    exact List.pairwise_map.mp ((hperm.map Predicate.name).nodup_iff.mpr h)
  exact hle.imp₂ (fun p q hpq hn => lt_of_le_of_ne (of_decide_eq_true hpq) hn) hne

lemma mem_filterMap_byCategory_iff (h : Indexed registry history) {p : Predicate} :
    p ∈ (registry.byCategory c).filterMap registry.get?
      ↔ p ∈ registry.predicates.values ∧ p.category = c := by
  rw [List.mem_filterMap, mem_values_iff]
  constructor
  · rintro ⟨name, hname, hp⟩
    obtain rfl : p.name = name := name_of_get? hp
    refine ⟨hp, ?_⟩
    simpa [hp] using (mem_byCategory_iff h).mp hname
  · rintro ⟨hp, hc⟩
    exact ⟨p.name, (mem_byCategory_iff h).mpr (by rw [hp, Option.map_some, hc]), hp⟩

lemma perm_byCategory (h : Indexed registry history) (c : Category) :
    (sortByName (registry.predicates.values.filter fun p => p.category = c)).Perm
      ((registry.byCategory c).filterMap registry.get?) := by
  have hvalues : registry.predicates.values.Nodup :=
    List.Nodup.of_map Predicate.name (map_name_values registry ▸ nodup_names registry)
  have hentries : ((registry.byCategory c).filterMap registry.get?).Nodup := by
    refine (nodup_byCategory h c).filterMap fun name name' p hp hp' => ?_
    rw [← name_of_get? hp, name_of_get? hp']
  refine (List.mergeSort_perm _ _).trans ((List.perm_ext_iff_of_nodup (hvalues.filter _) hentries).mpr ?_)
  intro p
  rw [mem_filterMap_byCategory_iff h]
  simp

lemma mem_categories_iff (h : Indexed registry history) :
    c ∈ registry.predicates.values.map Predicate.category ↔ registry.byCategory c ≠ [] := by
  rw [List.mem_map]
  constructor
  · rintro ⟨p, hp, hc⟩ hnil
    have hmem := (mem_filterMap_byCategory_iff h).mpr ⟨hp, hc⟩
    rw [hnil] at hmem
    cases hmem
  · intro hne
    obtain ⟨name, hname⟩ := List.exists_mem_of_ne_nil _ hne
    obtain ⟨p, hp, hc⟩ := Option.map_eq_some_iff.mp ((mem_byCategory_iff h).mp hname)
    refine ⟨p, mem_values_iff.mpr ?_, hc⟩
    rwa [name_of_get? hp]

end Groups

lemma count_byCategory (h : Indexed registry history) {name : String} (hn : name ∈ registry.names) :
    (Category.all.flatMap registry.byCategory).count name = 1 := by
  apply List.count_eq_one_of_mem
  · rw [List.nodup_flatMap]
    refine ⟨fun c _ => nodup_byCategory h c, ?_⟩
    have hall : Category.all.Nodup := by decide
    refine hall.imp fun {c d} hne name hc hd => ?_
    have hsome := (mem_byCategory_iff h).mp hc
    rw [(mem_byCategory_iff h).mp hd] at hsome
    exact hne (Option.some.inj hsome).symm
  · obtain ⟨p, hp⟩ := mem_names_iff.mp hn
    have hmem : name ∈ registry.byCategory p.category :=
      (mem_byCategory_iff h).mpr (by rw [hp, Option.map_some])
    refine List.mem_flatMap.mpr ⟨p.category, ?_, hmem⟩
    cases p.category <;> decide

/-- What a registry answers is told by its history alone: names stand in the order of their first
registration, and under each category in the order of their latest one. (`eraseDups` keeps the first
of equal names, `dedup` the last.) -/
theorem registry_of_history (h : Records registry history) :
    (∀ name ∈ registry.names, (Category.all.flatMap registry.byCategory).count name = 1) ∧
    (∀ c name, name ∈ registry.byCategory c ↔
      ∃ p, registry.get? name = some p ∧ p.category = c) ∧
    (∀ c, registry.byCategory c = (history.map Predicate.name).dedup.filter fun name =>
      (registry.get? name).map Predicate.category = some c) ∧
    (registry.names = (history.map Predicate.name).eraseDups ∧ registry.names.Nodup) ∧
    registry.size = (history.map Predicate.name).toFinset.card ∧
    (∀ name, registry.get? name = history.reverse.find? fun p => p.name = name) ∧
    (∀ c, c ∈ registry.grouped.map Prod.fst ↔ registry.byCategory c ≠ []) ∧
    (∀ g ∈ registry.grouped, g.2.Perm ((registry.byCategory g.1).filterMap registry.get?) ∧
      g.2.Pairwise fun p q => p.name < q.name) ∧
    registry.grouped.map Prod.fst
      = ((registry.names.filterMap registry.get?).map Predicate.category).eraseDups := by
  have hi := h.indexed
  have hcategories : registry.grouped.map Prod.fst
      = (registry.predicates.values.map Predicate.category).eraseDups := by
    rw [grouped_eq_map, List.map_map]
    exact List.map_id _
  refine ⟨fun name hn => count_byCategory hi hn, fun c name => ?_, byCategory_eq_filter hi,
    ⟨hi.names, nodup_names registry⟩, ?_, hi.get?, fun c => ?_, fun g hg => ?_, ?_⟩
  · rw [mem_byCategory_iff hi, Option.map_eq_some_iff]
  · rw [size_eq_card, hi.names]
    exact congrArg Finset.card (List.toFinset.ext fun _ => List.mem_eraseDups)
  · rw [hcategories, List.mem_eraseDups, mem_categories_iff hi]
  · rw [grouped_eq_map] at hg
    obtain ⟨c, _, rfl⟩ := List.mem_map.mp hg
    refine ⟨perm_byCategory hi c, pairwise_sortByName ?_⟩
    have hnames : (registry.predicates.values.map Predicate.name).Nodup :=
      map_name_values registry ▸ nodup_names registry
    exact hnames.sublist (List.filter_sublist.map Predicate.name)
  · rw [hcategories, filterMap_names]

theorem registry_of_history_moved :
    let p (name : String) (category : Category) : Predicate := ⟨name, category, [], "", fun _ _ => true⟩
    let history := [p "p?" .logic, p "q?" .size, p "p?" .size]
    let registry := history.foldl register empty
    Records registry history ∧ registry.names = ["p?", "q?"] ∧ registry.byCategory .logic = [] ∧
      registry.byCategory .size = ["q?", "p?"] ∧ registry.size = 2 ∧
      (Category.all.flatMap registry.byCategory).count "p?" = 1 ∧
      Category.logic ∉ registry.grouped.map Prod.fst := by
  intro p history registry
  have h : Records registry history := ((Records.empty.register _).register _).register _
  obtain ⟨hcount, _, hbyCategory, ⟨hnames, _⟩, hsize, _, hgroups, _⟩ := registry_of_history h
  have hlogic : registry.byCategory .logic = [] := (hbyCategory .logic).trans (by decide)
  exact ⟨h, hnames.trans (by decide), hlogic, (hbyCategory .size).trans (by decide),
    hsize.trans (by decide), hcount "p?" (by decide), fun hmem => (hgroups .logic).mp hmem hlogic⟩

end PredicateRegistry

end Conform
