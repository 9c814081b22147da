import Conform.Proofs.DeclaredType.Text
import Conform.Proofs.Json.FloatText
import Conform.Proofs.Validation.English
import Mathlib.Data.List.TakeWhile

/-! What an English message gives away. It begins with the words of a predicate, or of the check that
is reported in the words of that predicate, and ends in the text of the argument; and no two predicates
can be confused, nor two texts. -/

namespace Conform

namespace Decimal

variable {text digits : List Char} {n : Int} {c : Char}

lemma Spells.char (h : Spells text n) (hc : c ∈ text) : c.isDigit = true ∨ c = '+' ∨ c = '-' := by
  cases h with
  | unsigned hdigits => exact .inl (isDigit_iff.mpr (hdigits.all c hc))
  | plus hdigits =>
    rcases List.mem_cons.mp hc with rfl | hc
    · exact .inr (.inl rfl)
    · exact .inl (isDigit_iff.mpr (hdigits.all c hc))
  | minus hdigits =>
    rcases List.mem_cons.mp hc with rfl | hc
    · exact .inr (.inr rfl)
    · exact .inl (isDigit_iff.mpr (hdigits.all c hc))

lemma char_positionalText {style : Style} (hdigits : ∀ c ∈ digits, c.isDigit = true) (e : Int)
    (hc : c ∈ positionalText style digits e) : c.isDigit = true ∨ c = '.' := by
  have hzeros (n : Int) (h : c ∈ zeros n) : c.isDigit = true := Json.isDigit_of_mem_zeros h
  rw [positionalText] at hc
  split at hc
  · simp only [List.cons_append, List.mem_cons, List.mem_append] at hc
    rcases hc with rfl | rfl | hc | hc
    · exact .inl rfl
    · exact .inr rfl
    · exact .inl (hzeros _ hc)
    · exact .inl (hdigits c hc)
  · split at hc
    · simp only [List.mem_append, List.mem_ite_nil_right, List.mem_cons, List.not_mem_nil,
        or_false] at hc
      rcases hc with (hc | hc) | ⟨-, rfl | rfl⟩
      · exact .inl (hdigits c hc)
      · exact .inl (hzeros _ hc)
      · exact .inr rfl
      · exact .inl rfl
    · simp only [List.mem_append, List.mem_cons] at hc
      rcases hc with hc | rfl | hc
      · exact .inl (hdigits c (List.mem_of_mem_take hc))
      · exact .inr rfl
      · exact .inl (hdigits c (List.mem_of_mem_drop hc))

end Decimal

namespace Value

variable {v : Value}

lemma letter_not_mem_floatText (x : Float) : 'o' ∉ (floatText x).toList := by
  rw [floatText]
  split
  · decide
  · split
    · split <;> decide
    · rw [String.toList_ofList]
      have hlayout : 'o' ∉ Decimal.layout floatStyle
          (Decimal.shortest (Decimal.Binary.ofFloat x) floatStyle.tie) := by
        intro hmem
        -- the style has no exponents
        rw [Decimal.layout] at hmem
        have hchar := Decimal.char_positionalText (fun c hc => Decimal.isDigit_of_mem_toDigits hc) _ hmem
        exact absurd hchar (by decide)
      rw [Decimal.render]
      split
      · exact List.not_mem_cons_of_ne_of_not_mem (by decide) hlayout
      · exact hlayout

lemma letter_not_mem_display (h : v.isNumber = true) : 'o' ∉ v.display.toList := by
  cases v with
  | integer n => exact fun hmem => absurd ((Decimal.spells_display n).char hmem) (by decide)
  | float x => exact letter_not_mem_floatText x
  | _ => cases h

end Value

namespace Template

variable {template : String} {parameters : List Parameter} {args : List Argument}

def words (template : List Char) : List Char := template.takeWhile (· != '%')

def Ends (template : List Char) (parameters : List Parameter) : Prop :=
  template = words template
      ++ parameters.flatMap (fun parameter => (Piece.placeholder parameter.name.toList).spelling) ∧
    parameters.length ≤ 1 ∧ ∀ parameter ∈ parameters, '\x7d' ∉ parameter.name.toList

instance (template : List Char) (parameters : List Parameter) : Decidable (Ends template parameters) :=
  inferInstanceAs (Decidable (_ ∧ _))

lemma percent_not_mem_words (template : List Char) : '%' ∉ words template := by
  intro h
  simpa using List.mem_takeWhile_imp h

lemma interpolate_ends (h : Ends template.toList parameters)
    (hargs : args.map Argument.name = parameters.map Parameter.name) :
    (interpolate template args).toList
      = words template.toList ++ args.flatMap fun a => a.value.display.toList := by
  obtain ⟨htemplate, hone, hclose⟩ := h
  have hwords : ¬ opening <:+: words template.toList := not_opened (percent_not_mem_words _)
  match parameters, args with
  | [], _ :: _ | [_], [] | [_], _ :: _ :: _ => simp at hargs
  | _ :: _ :: _, _ => simp at hone
  | [], [] =>
    rw [List.flatMap_nil, List.append_nil] at htemplate ⊢
    rw [← htemplate] at hwords ⊢
    rw [interpolate, pieces_literal hwords, flatMap_fill_literal, String.toList_ofList]
  | [parameter], [a] =>
    have hname : a.name = parameter.name := (List.cons.inj hargs).1
    have hbrace : '\x7d' ∉ a.name.toList := hname ▸ hclose parameter List.mem_cons_self
    rw [List.flatMap_singleton, ← hname, ← List.append_nil (Piece.spelling _)] at htemplate
    rw [interpolate_single hwords (by decide) hbrace htemplate, List.append_nil,
      List.flatMap_singleton]

end Template

namespace Predicate

variable {p p' : Predicate} {args args' : List Value}

def words (p : Predicate) : List Char :=
  Template.words ((TemplateSet.english.predicates.get? p.name).getD "").toList

lemma ends_builtins : ∀ p ∈ builtins, (TemplateSet.english.predicates.get? p.name).any fun text =>
    Template.Ends text.toList p.parameters := by
  decide +kernel

lemma words_builtins : ∀ p ∈ builtins, ¬ p.words <+: "is missing".toList ∧
    ∀ p' ∈ builtins, p.words <+: p'.words → p.name = p'.name ∨
      p.parameters = [boundParameter] ∧ p.words ++ ['o'] <+: p'.words := by
  decide +kernel

open Compile

def shown (args : List Value) : List Char := args.flatMap fun v => v.display.toList

lemma length_parameters_le (hp : p ∈ builtins) : p.parameters.length ≤ 1 := by
  obtain ⟨_, _, hends⟩ := (Option.any_eq_true _ _).mp (ends_builtins p hp)
  exact (of_decide_eq_true hends).2.1

lemma name_eq_of_words (hp : p ∈ builtins) (hp' : p' ∈ builtins) (ha : Applies p args)
    {text : List Char} (hwords : p.words <+: p'.words)
    (h : p.words ++ shown args = p'.words ++ text) : p.name = p'.name := by
  rcases (words_builtins p hp).2 p' hp' hwords with hname | ⟨hbound, more, hmore⟩
  · exact hname
  · exfalso
    have hlength : args.length = 1 := by rw [ha.arity, arity, hbound, List.length_singleton]
    obtain ⟨v, rfl⟩ := List.length_eq_one_iff.mp hlength
    have hnumber : v.isNumber = true := ha.accepted 0 boundParameter v (by rw [hbound]; rfl) rfl
    have hdisplay : v.display.toList = 'o' :: (more ++ text) := by
      rw [← hmore, List.append_assoc, List.append_assoc, List.append_right_inj, shown,
        List.flatMap_singleton] at h
      exact h
    exact Value.letter_not_mem_display hnumber (hdisplay ▸ List.mem_cons_self)

lemma words_eq_of_name (h : p.name = p'.name) : p.words = p'.words := by
  rw [words, words, h]

lemma map_display_eq_iff (hlength : args.length = args'.length) (hone : args.length ≤ 1) :
    args.map Value.display = args'.map Value.display ↔ shown args = shown args' := by
  match args, args' with
  | [], [] => exact iff_of_true rfl rfl
  | [v], [w] =>
    rw [shown, shown, List.flatMap_singleton, List.flatMap_singleton, String.toList_inj]
    simp
  | [], _ :: _ | [_], [] | [_], _ :: _ :: _ => simp at hlength
  | _ :: _ :: _, _ => simp at hone

end Predicate

namespace FailedCheck

open Compile Predicate

variable {c c' : FailedCheck} {p p' : Predicate} {args args' : List Value}

def message (c : FailedCheck) : String := TemplateSet.english.resolve c.check c.args

structure Says (c : FailedCheck) (p : Predicate) (args : List Value) : Prop where
  known : PredicateRegistry.builtin.get? p.name = some p
  applies : Applies p args
  message : c.message.toList = p.words ++ shown args

lemma Says.mem (h : c.Says p args) : p ∈ builtins := PredicateRegistry.mem_of_get?_ofList h.known

lemma Says.predicate_eq (h : c.Says p args) (h' : c'.Says p' args') (hname : p.name = p'.name) :
    p = p' :=
  Option.some.inj (h.known.symm.trans (hname ▸ h'.known))

lemma Says.name_eq (h : c.Says p args) (h' : c'.Says p' args') (heq : c.message = c'.message) :
    p.name = p'.name := by
  have htext : p.words ++ shown args = p'.words ++ shown args' := by
    rw [← h.message, ← h'.message, heq]
  have hwords : p.words <+: p'.words ++ shown args' := htext ▸ List.prefix_append _ _
  rcases List.prefix_or_prefix_of_prefix hwords (List.prefix_append _ _) with hwords | hwords
  · exact name_eq_of_words h.mem h'.mem h.applies hwords htext
  · exact (name_eq_of_words h'.mem h.mem h'.applies hwords htext.symm).symm

lemma Says.message_eq_iff (h : c.Says p args) (h' : c'.Says p' args') :
    c.message = c'.message ↔
      p.name = p'.name ∧ args.map Value.display = args'.map Value.display := by
  have hlist (hname : p.name = p'.name) :
      args.map Value.display = args'.map Value.display ↔ shown args = shown args' := by
    obtain rfl := h.predicate_eq h' hname
    apply map_display_eq_iff (h.applies.arity.trans h'.applies.arity.symm)
    exact h.applies.arity ▸ length_parameters_le h.mem
  constructor
  · intro heq
    have hname := h.name_eq h' heq
    have htext : p.words ++ shown args = p'.words ++ shown args' := by
      rw [← h.message, ← h'.message, heq]
    rw [words_eq_of_name hname, List.append_right_inj] at htext
    exact ⟨hname, (hlist hname).mpr htext⟩
  · rintro ⟨hname, htexts⟩
    rw [← String.toList_inj, h.message, h'.message, words_eq_of_name hname,
      (hlist hname).mp htexts]

lemma Says.message_eq_iff_of_bare (h : c.Says p []) (h' : c'.Says p' args') :
    c.message = c'.message ↔ p.name = p'.name := by
  rw [h.message_eq_iff h']
  apply and_iff_left_of_imp
  intro hname
  obtain rfl := h.predicate_eq h' hname
  have hlength : args'.length = 0 := h'.applies.arity.trans h.applies.arity.symm
  rw [List.length_eq_zero_iff.mp hlength]

lemma Says.ne_missing (h : c.Says p args) : c.message ≠ (bare .keyPresence).message := by
  have hmissing : (bare .keyPresence).message = "is missing" := by decide +kernel
  rw [hmissing]
  intro heq
  apply (words_builtins p h.mem).1
  rw [← heq, h.message]
  exact List.prefix_append _ _

lemma says_of_parts {check : Check} {arguments : List Argument}
    (hp : PredicateRegistry.builtin.get? p.name = some p)
    (hcheck : TemplateSet.english.template? check = TemplateSet.english.predicates.get? p.name)
    (ha : Applies p args) (hnames : arguments.map Argument.name = p.parameters.map Parameter.name)
    (hvalues : arguments.map Argument.value = args) : Says ⟨check, arguments⟩ p args where
  known := hp
  applies := ha
  message := by
    obtain ⟨template, htemplate, hends⟩ :=
      (Option.any_eq_true _ _).mp (ends_builtins p (PredicateRegistry.mem_of_get?_ofList hp))
    have hresolve : TemplateSet.english.resolve check arguments
        = Template.interpolate template arguments := by
      rw [TemplateSet.resolve, hcheck, htemplate]
    rw [FailedCheck.message, hresolve, Template.interpolate_ends (of_decide_eq_true hends) hnames,
      ← hvalues, shown, List.flatMap_map, words, htemplate, Option.getD_some]

lemma applies_nil (h : p.parameters = []) : Applies p [] where
  arity := by rw [arity, h, List.length_nil, List.length_nil]
  accepted _ _ _ _ hv := by simp at hv

lemma says_bare {check : Check} (hp : PredicateRegistry.builtin.get? p.name = some p)
    (hcheck : TemplateSet.english.template? check = TemplateSet.english.predicates.get? p.name)
    (hnone : p.parameters = []) : (bare check).Says p [] :=
  says_of_parts hp hcheck (applies_nil hnone) (by rw [hnone]; rfl) rfl

lemma exists_says_quantifier : ∃ p : Predicate, p.name = "filled?" ∧ (bare .quantifier).Says p [] := by
  obtain ⟨p, hp⟩ : ∃ p, PredicateRegistry.builtin.get? "filled?" = some p := ⟨_, rfl⟩
  have hname := PredicateRegistry.name_of_get? hp
  obtain rfl := Option.some.inj hp
  exact ⟨_, hname, says_bare rfl (by decide +kernel) rfl⟩

end FailedCheck

lemma DeclaredType.words_ofStyle (style : InputStyle) : ∀ t ∈ ofStyle style,
    TemplateSet.english.types.get? t.name = TemplateSet.english.predicates.get? t.typePredicate ∧
      (PredicateRegistry.builtin.get? t.typePredicate).any fun p => p.parameters = [] := by
  cases style <;> decide +kernel

lemma FailedCheck.exists_says_type {style : InputStyle} {t : DeclaredType}
    (ht : t ∈ DeclaredType.ofStyle style) :
    ∃ p : Predicate, p.name = t.typePredicate ∧ (bare (.type t.name)).Says p [] := by
  obtain ⟨htemplate, hknown⟩ := DeclaredType.words_ofStyle style t ht
  obtain ⟨p, hp, hnone⟩ := (Option.any_eq_true _ _).mp hknown
  have hname := PredicateRegistry.name_of_get? hp
  refine ⟨p, hname, says_bare (hname.symm ▸ hp) ?_ (of_decide_eq_true hnone)⟩
  rw [hname]
  exact htemplate

lemma Compile.Realizes.exists_says_predicate {style : InputStyle} {d : KeyDeclaration} {rule : Rule}
    (h : Realizes (.forStyle style) d rule) {r : PredicateRule} (hr : r ∈ rule.predicates) :
    ∃ p : Predicate, p.name = r.name ∧ (Stage.failedPredicate r).Says p r.args := by
  obtain ⟨p, hp, ha, hparameters, -⟩ := h.resolved r hr
  have hname := PredicateRegistry.name_of_get? hp
  have hlength : r.args.length = r.parameters.length := hparameters ▸ ha.arity
  refine ⟨p, hname, FailedCheck.says_of_parts (hname.symm ▸ hp) ?_ ha ?_ (map_value_namedArgs hlength)⟩
  · rw [hname]
    rfl
  · rw [← hparameters]
    exact map_name_namedArgs hlength

end Conform
