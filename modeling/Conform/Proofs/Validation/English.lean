import Conform.Proofs.Compile.FirstFault
import Conform.Proofs.DeclaredType.Builtin
import Conform.Proofs.Message.Interpolation
import Conform.Proofs.Predicate.Builtin
import Conform.Proofs.Validation.Messages

/-! The tables that come with the library: types, predicates with their parameters, English templates.
They agree on every name and on every placeholder, so each check has its template, and an opening mark
in a message is one that an argument brought in. -/

namespace Conform

open Compile

namespace Template

variable {front text back left right template name : List Char} {args : List Argument}
  {parameters : List Parameter}

/-- What a template shows that has one placeholder for each argument and at most one of them. The only
opening mark in it is that of the placeholder, and every opening mark in the message is a part of what
the argument shows. -/
inductive Shows (template : List Char) : List Argument → List Char → Prop
  | plain : ¬ opening <:+: template → Shows template [] template
  | filled {front back : List Char} {a : Argument} :
      template = front ++ ((Piece.placeholder a.name.toList).spelling ++ back) →
      (∀ left right, template = left ++ (opening ++ right) → left = front) →
      (∀ left right, front ++ (a.value.display.toList ++ back) = left ++ (opening ++ right) →
        ∃ before behind, a.value.display.toList = before ++ (opening ++ behind) ∧
          left = front ++ before ∧ right = behind ++ back) →
      Shows template [a] (front ++ (a.value.display.toList ++ back))

def agrees (template : List Char) : List Parameter → Bool
  | [] => (splitOpening template).isNone
  | [parameter] =>
    (splitOpening template).any fun (front, rest) =>
      (splitClosing rest).any fun (name, back) =>
        name == parameter.name.toList && !('%' ∈ front ++ name ++ back) && !('\x7b' ∈ back)
  | _ => false

lemma mark_inside (hfront : '%' ∉ front) (hback : '\x7b' ∉ back)
    (h : front ++ (text ++ back) = left ++ (opening ++ right)) :
    ∃ before behind, text = before ++ (opening ++ behind) ∧ left = front ++ before ∧
      right = behind ++ back := by
  have hpercent : ∃ before, left = front ++ before ∧ text ++ back = before ++ (opening ++ right) := by
    rcases List.append_eq_append_iff.mp h with ⟨before, hleft, hrest⟩ | ⟨more, hsplit, hrest⟩
    · exact ⟨before, hleft, hrest⟩
    · cases more with
      | nil => exact ⟨[], by simpa using hsplit.symm, by simpa using hrest.symm⟩
      | cons c more =>
        obtain rfl : '%' = c := (List.cons.inj hrest).1
        exact absurd (by simp [hsplit]) hfront
  obtain ⟨before, hleft, hmarked⟩ := hpercent
  rcases List.append_eq_append_iff.mp hmarked with ⟨more, _, hover⟩ | ⟨shown, htext, hover⟩
  · exact absurd (by simp [hover, opening]) hback
  · cases shown with
    | nil =>
      obtain rfl : opening ++ right = back := hover
      exact absurd (by simp [opening]) hback
    | cons c shown =>
      obtain ⟨rfl, hrest⟩ := List.cons.inj hover
      cases shown with
      | nil =>
        obtain rfl : '\x7b' :: right = back := hrest
        exact absurd List.mem_cons_self hback
      | cons d behind =>
        obtain ⟨rfl, hright⟩ := List.cons.inj hrest
        exact ⟨before, behind, htext, hleft, hright⟩

lemma eq_front_of_mark (hfront : '%' ∉ front) (hname : '%' ∉ name) (hback : '\x7b' ∉ back)
    (h : front ++ ((Piece.placeholder name).spelling ++ back) = left ++ (opening ++ right)) :
    left = front := by
  obtain ⟨before, behind, hspelling, rfl, -⟩ := mark_inside hfront hback h
  cases before with
  | nil => exact List.append_nil front
  | cons c before =>
    have htail : '\x7b' :: (name ++ ['\x7d']) = before ++ (opening ++ behind) :=
      (List.cons.inj hspelling).2
    have hmem : '%' ∈ '\x7b' :: (name ++ ['\x7d']) := by simp [htail, opening]
    simp [hname] at hmem

lemma interpolate_single {a : Argument} (hfront : ¬ opening <:+: front) (hback : ¬ opening <:+: back)
    (hname : '\x7d' ∉ a.name.toList) {template : String}
    (htemplate : template.toList = front ++ ((Piece.placeholder a.name.toList).spelling ++ back)) :
    (interpolate template [a]).toList = front ++ (a.value.display.toList ++ back) := by
  have hspelling : (Piece.placeholder a.name.toList).spelling ++ back
      = opening ++ (a.name.toList ++ '\x7d' :: back) := by simp [Piece.spelling, opening]
  have hfill : (Piece.placeholder a.name.toList).fill [a] = a.value.display.toList :=
    fill_filled rfl (List.forall_mem_nil _)
  rw [interpolate, String.toList_ofList, htemplate, hspelling, pieces_placeholder hfront hname,
    pieces_literal hback, List.flatMap_append, flatMap_fill_literal, List.flatMap_cons, hfill,
    flatMap_fill_literal]

lemma not_opened (h : '%' ∉ text) : ¬ opening <:+: text :=
  fun hin => h (hin.subset List.mem_cons_self)

lemma agrees_singleton {parameter : Parameter} (h : agrees template [parameter] = true) :
    ∃ front back, template = front ++ ((Piece.placeholder parameter.name.toList).spelling ++ back) ∧
      '\x7d' ∉ parameter.name.toList ∧ '%' ∉ front ++ parameter.name.toList ++ back ∧
      '\x7b' ∉ back := by
  simp only [agrees, Option.any_eq_true, Prod.exists, Bool.and_eq_true, beq_iff_eq] at h
  obtain ⟨front, rest, hopen, name, back, hclose, ⟨rfl, hpercent⟩, hbrace⟩ := h
  obtain ⟨rfl, -⟩ := eq_append_of_splitOpening hopen
  obtain ⟨rfl, hname⟩ := eq_append_of_splitClosing hclose
  refine ⟨front, back, ?_, hname, by simpa using hpercent, by simpa using hbrace⟩
  simp [Piece.spelling, opening]

lemma shows_of_agrees {template : String} (h : agrees template.toList parameters = true)
    (hargs : args.map Argument.name = parameters.map Parameter.name) :
    Shows template.toList args (interpolate template args).toList := by
  match parameters, args with
  | [], _ :: _ | [_], [] | [_], _ :: _ :: _ => simp at hargs
  | _ :: _ :: _, _ => cases h
  | [], [] =>
    have hplain : ¬ opening <:+: template.toList :=
      splitOpening_eq_none_iff.mp (Option.isNone_iff_eq_none.mp h)
    rw [interpolate, pieces_literal hplain, flatMap_fill_literal, String.toList_ofList]
    exact .plain hplain
  | [parameter], [a] =>
    obtain ⟨front, back, htemplate, hclose, hpercent, hbrace⟩ := agrees_singleton h
    obtain hname : a.name = parameter.name := (List.cons.inj hargs).1
    rw [← hname] at htemplate hclose hpercent
    simp only [List.mem_append, not_or] at hpercent
    obtain ⟨⟨hfront, hmiddle⟩, hback⟩ := hpercent
    rw [interpolate_single (not_opened hfront) (not_opened hback) hclose htemplate]
    refine .filled htemplate (fun left right heq => ?_) fun left right heq => ?_
    · exact eq_front_of_mark hfront hmiddle hbrace (htemplate ▸ heq)
    · exact mark_inside hfront hbrace heq

end Template

section Tables

variable {style : InputStyle} {d : KeyDeclaration} {check : Check} {parameters : List Parameter}
  {args : List Argument} {subject : Option Value}

inductive Shipped (style : InputStyle) : Check → List Parameter → Prop
  | keyPresence : Shipped style .keyPresence []
  | quantifier : Shipped style .quantifier []
  | type {name t} : (TypeRegistry.forStyle style).get? name = some t → Shipped style (.type name) []
  | predicate {name p} : PredicateRegistry.builtin.get? name = some p →
      Shipped style (.predicate name) p.parameters

lemma agrees_types (style : InputStyle) : ∀ t ∈ DeclaredType.ofStyle style,
    (TemplateSet.english.types.get? t.name).any fun text => Template.agrees text.toList [] := by
  cases style <;> decide +kernel

lemma agrees_predicates : ∀ p ∈ Predicate.builtins,
    (TemplateSet.english.predicates.get? p.name).any fun text =>
      Template.agrees text.toList p.parameters := by
  decide +kernel

lemma Shipped.agrees (h : Shipped style check parameters) :
    ∃ template, TemplateSet.english.template? check = some template ∧
      Template.agrees template.toList parameters = true := by
  rw [← Option.any_eq_true]
  cases h with
  | keyPresence | quantifier => decide +kernel
  | type ht =>
    rw [← TypeRegistry.name_of_get? ht]
    rw [TypeRegistry.forStyle_eq_ofList] at ht
    exact agrees_types style _ (TypeRegistry.mem_of_get?_ofList ht)
  | predicate hp =>
    rw [← PredicateRegistry.name_of_get? hp]
    exact agrees_predicates _ (PredicateRegistry.mem_of_get?_ofList hp)

lemma shipped_of_demanded (ht : TypeKnown (.forStyle style) d)
    (hq : ∀ q ∈ d.predicates, Resolves (.forStyle style) q)
    (h : check ∈ demandedChecks (.forStyle style) d) : ∃ parameters, Shipped style check parameters := by
  simp only [demandedChecks, List.mem_append, List.mem_ite_nil_right, List.mem_singleton,
    Option.mem_toList, Option.map_eq_some_iff, List.mem_map] at h
  rcases h with ((⟨_, rfl⟩ | ⟨_, rfl⟩) | ⟨name, hname, rfl⟩) | ⟨q, hmem, rfl⟩
  · exact ⟨[], .keyPresence⟩
  · exact ⟨[], .quantifier⟩
  · obtain ⟨t, htype⟩ := ht name hname
    exact ⟨[], .type htype⟩
  · obtain ⟨p, hp, _⟩ := hq q (List.mem_of_mem_filter hmem)
    exact ⟨p.parameters, .predicate hp⟩

lemma Carries.shipped (ht : TypeKnown (.forStyle style) d)
    (h : Carries (.forStyle style) d subject check args) :
    ∃ parameters, Shipped style check parameters ∧
      args.map Argument.name = parameters.map Parameter.name := by
  cases h with
  | keyPresence => exact ⟨[], .keyPresence, rfl⟩
  | quantifier => exact ⟨[], .quantifier, rfl⟩
  | type hname =>
    obtain ⟨t, htype⟩ := ht _ hname
    exact ⟨[], .type htype, rfl⟩
  | predicate _ hp _ hnames => exact ⟨_, .predicate hp, hnames⟩

lemma Compile.KeyFault.ne_missingTemplate {e : SchemaError} (h : KeyFault (.forStyle style) d e)
    (key description : String) : e ≠ .missingTemplate key description := by
  cases h with
  | type => exact nofun
  | predicate _ _ _ hq => cases hq <;> exact nofun
  | @template _ check post ht hq hsplit _ hmissing =>
    have hmem : check ∈ demandedChecks (.forStyle style) d := by simp [hsplit]
    obtain ⟨parameters, hshipped⟩ := shipped_of_demanded ht hq hmem
    obtain ⟨template, htemplate, -⟩ := hshipped.agrees
    have hhas : TemplateSet.english.has check = true := by rw [TemplateSet.has, htemplate]; rfl
    cases hhas.symm.trans hmissing

theorem english_complete (style : InputStyle) (declaration : SchemaDeclaration) :
    (∀ key description,
      Schema.compile declaration (.forStyle style) ≠ .error (.missingTemplate key description)) ∧
      ∀ schema, Schema.compile declaration (.forStyle style) = .ok schema →
        ∀ input : Input, ∀ f ∈ (schema.validate input).failures,
          ∃ d ∈ declaration.keys, d.key = f.key ∧ ∃ args template,
            Carries (.forStyle style) d ((ruleOf (.forStyle style) d).subject input) f.check args ∧
            TemplateSet.english.template? f.check = some template ∧
            Template.Shows template.toList args f.message.toList := by
  refine ⟨fun key description h => ?_, fun schema h input f hf => ?_⟩
  · rw [schema_eq_error_iff, compileKeys_eq_error_iff] at h
    obtain ⟨pre, d, post, _, _, hfault⟩ := h
    generalize he : SchemaError.missingTemplate key description = e at hfault
    cases hfault with
    | duplicate => cases he
    | key _ hk => exact hk.ne_missingTemplate key description he.symm
  · obtain ⟨hv, rfl⟩ := schema_eq_ok_iff.mp h
    rw [Schema.failures_validate] at hf
    obtain ⟨rule, hrule, hf⟩ := List.mem_flatMap.mp hf
    obtain ⟨d, hd, rfl⟩ := List.mem_map.mp hrule
    obtain ⟨c, hc, rfl⟩ := List.mem_map.mp hf
    have hcomp := hv.compilable d hd
    have hcarries := hcomp.realizes.carries hc
    obtain ⟨parameters, hshipped, hnames⟩ := hcarries.shipped hcomp.typeKnown
    obtain ⟨template, htemplate, hagrees⟩ := hshipped.agrees
    have hmessage : TemplateSet.english.resolve c.check c.args
        = Template.interpolate template c.args := by rw [TemplateSet.resolve, htemplate]
    refine ⟨d, hd, rfl, c.args, template, hcarries, htemplate, ?_⟩
    have hshows := Template.shows_of_agrees hagrees hnames
    rwa [← hmessage] at hshows

theorem english_complete_spelled :
    let tag := ((KeyDeclaration.required "tag").filled "string").check "included_in?"
      (.array [.string "%\x7blist\x7d", .string "b"])
    let input := Input.ofEntries [("tag", .string "c")]
    ∃ schema, Schema.compile ⟨[tag]⟩ (.forStyle .json) = .ok schema ∧
      (schema.validate input).failures
        = [⟨"tag", .predicate "included_in?", "must be one of: %\x7blist\x7d, b"⟩] ∧
      ∃ args template,
        Carries (.forStyle .json) tag ((ruleOf (.forStyle .json) tag).subject input)
          (.predicate "included_in?") args ∧
        TemplateSet.english.template? (.predicate "included_in?") = some template ∧
        Template.Shows template.toList args "must be one of: %\x7blist\x7d, b".toList := by
  intro tag input
  have hfailures : (Schema.compile ⟨[tag]⟩ (.forStyle .json)).map
      (fun schema => (schema.validate input).failures)
        = .ok [⟨"tag", .predicate "included_in?", "must be one of: %\x7blist\x7d, b"⟩] := by
    decide +kernel
  obtain ⟨schema, h⟩ : ∃ schema, Schema.compile ⟨[tag]⟩ (.forStyle .json) = .ok schema := ⟨_, rfl⟩
  rw [h] at hfailures
  have hone : (schema.validate input).failures = [_] := Except.ok.inj hfailures
  obtain ⟨d, hd, _, hmessage⟩ := (english_complete .json ⟨[tag]⟩).2 schema h input _
    (hone ▸ List.mem_singleton_self _)
  obtain rfl : d = tag := List.mem_singleton.mp hd
  exact ⟨schema, h, hone, hmessage⟩

end Tables

end Conform
