import Conform.Proofs.OrderedMap
import Conform.Proofs.Validation.Templates

/-! Template sets under merging. The three sections are merged one by one, so the laws of ordered maps are
the laws of template sets. -/

namespace Conform.TemplateSet

lemma keys_merge (a b : TemplateSet) : ∀ part ∈ [checks, types, predicates],
    (part (a.merge b)).keys = ((part a).keys ++ (part b).keys).eraseDups := by
  simp only [List.forall_mem_cons]
  exact ⟨OrderedMap.keys_merge _ _, OrderedMap.keys_merge _ _, OrderedMap.keys_merge _ _,
    List.forall_mem_nil _⟩

theorem merge_monoid_right_biased (a b c : TemplateSet) :
    (a.merge b).merge c = a.merge (b.merge c) ∧
      empty.merge a = a ∧ a.merge empty = a ∧
      a.merge a = a ∧
      (∀ check, (a.merge b).template? check = (b.template? check).or (a.template? check)) ∧
      ∀ part ∈ [checks, types, predicates],
        (part (a.merge b)).keys = ((part a).keys ++ (part b).keys).eraseDups := by
  refine ⟨?_, ?_, ?_, ?_, template?_merge a b, keys_merge a b⟩
  · simp only [merge, OrderedMap.merge_assoc]
  · simp only [merge, empty, OrderedMap.empty_merge]
  · simp only [merge, empty, OrderedMap.merge_empty]
  · simp only [merge, OrderedMap.merge_self]

/-- A text that is replaced keeps its place, a name that is new goes to the end. -/
example :
    let own : TemplateSet :=
      ⟨OrderedMap.ofList [("hint", "see below"), ("key_presence", "is required")], OrderedMap.empty,
        OrderedMap.empty⟩
    (english.merge own).checks.entries
      = [("key_presence", "is required"), ("filled", "must be filled"), ("hint", "see below")] := rfl

end Conform.TemplateSet
