import Conform.Document
import Conform.Vocabulary
import Mathlib.Data.List.Basic
import Mathlib.Data.List.Nodup
import Mathlib.Tactic.Common

/-! Reading records back. A record is written as an object of its fields, some of which may be left
out; each field is read as what was written of it, or as missing, and the order of the entries does not
matter. -/

namespace Conform

namespace Document

variable {α β γ : Type} {fields : List (String × Option Document)} {name : String}

section Lists

lemma mapM_map_eq_some {as : List α} {write : α → β} {read : β → Option γ} {get : α → γ}
    (h : ∀ a ∈ as, read (write a) = some (get a)) : (as.map write).mapM read = some (as.map get) := by
  induction as with
  | nil => rfl
  | cons a as ih =>
    obtain ⟨ha, has⟩ := List.forall_mem_cons.mp h
    rw [List.map_cons, List.mapM_cons, ha, ih has]
    rfl

lemma list?_map {as : List α} {write : α → Document} {read : Document → Option α}
    (h : ∀ a ∈ as, read (write a) = some a) : list? read (.array (as.map write)) = some as := by
  have hread : (as.map write).mapM read = some (as.map id) := mapM_map_eq_some h
  rwa [List.map_id] at hread

lemma map?_entries {m : OrderedMap α} {read : Document → Option α} (write : α → Document)
    (h : ∀ e ∈ m.entries, read (write e.2) = some e.2) :
    map? read (.object (m.entries.map fun e => (e.1, write e.2))) = some m := by
  have hread : (m.entries.map fun e => (e.1, write e.2)).mapM (fun e => (read e.2).map (e.1, ·))
      = some (m.entries.map id) :=
    mapM_map_eq_some fun e he => by rw [h e he]; rfl
  obtain ⟨entries, hnodup⟩ := m
  rw [map?, hread, List.map_id, Option.map_some, OrderedMap.ofList]
  simp only [Entries.ofList_of_nodup hnodup]

end Lists

section Fields

lemma defaulted?_some (default : α) (read : Document → Option α) (d : Document) :
    defaulted? default read (some d) = read d := rfl

lemma defaulted?_unless_empty {as : List α} {read : Document → Option (List α)} {d : Document}
    (h : read d = some as) :
    defaulted? [] read (if as.isEmpty then none else some d) = some as := by
  cases as with
  | nil => rfl
  | cons a as => exact h

lemma optional?_string (s : Option String) : optional? string? (s.map string) = some s := by
  cases s <;> rfl

end Fields

section Records

def names : Document → List String
  | object entries => Entries.keys entries
  | _ => []

def written (fields : List (String × Option Document)) : List (String × Document) :=
  fields.filterMap fun f => f.2.map (f.1, ·)

lemma mem_written {e : String × Document} : e ∈ written fields ↔ (e.1, some e.2) ∈ fields := by
  simp only [written, List.mem_filterMap, Option.map_eq_some_iff]
  constructor
  · rintro ⟨⟨name, content⟩, hmem, d, rfl, rfl⟩
    exact hmem
  · intro h
    exact ⟨_, h, e.2, rfl, rfl⟩

lemma mem_names_written : name ∈ (object (written fields)).names ↔ ∃ d, (name, some d) ∈ fields := by
  simp only [names, Entries.keys, List.mem_map, Prod.exists, exists_and_right, exists_eq_right,
    mem_written]

lemma filter_written_of_not_mem (h : name ∉ fields.map Prod.fst) :
    (written fields).filter (fun e => e.1 == name) = [] := by
  rw [List.filter_eq_nil_iff]
  intro e he hname
  have hmem : e.1 ∈ fields.map Prod.fst := List.mem_map_of_mem (mem_written.mp he)
  rw [beq_iff_eq] at hname
  exact h (hname ▸ hmem)

lemma filter_written (h : (fields.map Prod.fst).Nodup) {f : String × Option Document}
    (hf : f ∈ fields) :
    (written fields).filter (fun e => e.1 == f.1) = (f.2.map (f.1, ·)).toList := by
  induction fields with
  | nil => cases hf
  | cons g fields ih =>
    obtain ⟨hfresh, hnodup⟩ := List.nodup_cons.mp h
    have hsplit : written (g :: fields) = (g.2.map (g.1, ·)).toList ++ written fields := by
      obtain ⟨name, content⟩ := g
      cases content <;> rfl
    rw [hsplit, List.filter_append]
    rcases List.mem_cons.mp hf with rfl | hf
    · rw [filter_written_of_not_mem hfresh, List.append_nil]
      cases f.2 <;> simp
    · have hne : g.1 ≠ f.1 := fun heq => hfresh (heq ▸ List.mem_map_of_mem hf)
      rw [ih hnodup hf]
      cases g.2 <;> simp [hne]

lemma unique?_written (h : (fields.map Prod.fst).Nodup) {f : String × Option Document}
    (hf : f ∈ fields) : unique? (written fields) f.1 = some f.2 := by
  rw [unique?, filter_written h hf]
  cases f.2 <;> rfl

lemma fields?_written (format : Format) {names : List String} (hnames : fields.map Prod.fst = names)
    (h : names.Nodup) :
    fields? format names (.object (written fields)) = some (fields.map Prod.snd) := by
  subst hnames
  exact mapM_map_eq_some fun _ hf => unique?_written h hf

lemma fields?_object (format : Format) {names : List String} {entries : List (String × Document)}
    (hnames : entries.map Prod.fst = names) (h : names.Nodup) :
    fields? format names (.object entries) = some (entries.map fun e => some e.2) := by
  have hwritten : written (entries.map fun e => (e.1, some e.2)) = entries := by
    simp [written, List.filterMap_map]
  have hfirst : (entries.map fun e => (e.1, some e.2)).map Prod.fst = names := by
    rw [List.map_map]
    exact hnames
  have hread := fields?_written format hfirst h
  rwa [hwritten, List.map_map] at hread

lemma unique?_perm {es fs : List (String × Document)} (h : es.Perm fs) (name : String) :
    unique? es name = unique? fs name := by
  have hperm := h.filter fun e => e.1 == name
  rw [unique?, unique?]
  generalize es.filter (fun e => e.1 == name) = left at hperm
  generalize fs.filter (fun e => e.1 == name) = right at hperm
  match left with
  | [] => rw [List.nil_perm.mp hperm]
  | [e] => rw [List.singleton_perm.mp hperm]
  | e :: e' :: left =>
    match right with
    | [] => cases List.perm_nil.mp hperm
    | [f] => cases List.perm_singleton.mp hperm
    | f :: f' :: right => rfl

end Records

end Document

namespace Vocabulary

variable {α : Type} [Vocabulary α]

lemma ofDocument?_document (format : Document.Format) {a : α} (ha : a ∈ (all : List α))
    (hwords : ((all : List α).map word).Nodup) : ofDocument? format (document a) = some a := by
  have hkeys : Entries.keys (words : List (String × α)) = (all : List α).map word := by
    simp [Entries.keys, words, Function.comp_def]
  have hmem : (word a, a) ∈ (words : List (String × α)) := List.mem_map_of_mem ha
  exact Entries.get?_of_mem (hkeys ▸ hwords) hmem

end Vocabulary

end Conform
