import Conform.Message.Template
import Mathlib.Data.List.Chain
import Mathlib.Data.List.Forall2
import Mathlib.Data.List.Infix
import Mathlib.Tactic.Common

/-! Every template is written in exactly one way as literal texts and placeholders, where an opening
mark goes with the next closing brace whatever stands between them. Filling in is done piece by piece:
what an argument shows is taken as it is, also where it looks like a placeholder. -/

namespace Conform.Template

section Marks

variable {c : Char} {text front back : List Char}

def opening : List Char := ['%', '\x7b']

lemma splitOpening_cons (h : ¬ opening <+: c :: text) :
    splitOpening (c :: text) = (splitOpening text).map fun (front, back) => (c :: front, back) := by
  rw [splitOpening]
  rintro back rfl rfl
  exact h ⟨back, rfl⟩

lemma splitOpening_eq_none_iff : splitOpening text = none ↔ ¬ opening <:+: text := by
  induction text with
  | nil => exact iff_of_true rfl (by simp [opening])
  | cons c text ih =>
    rw [List.infix_cons_iff, not_or]
    by_cases h : opening <+: c :: text
    · obtain ⟨back, hback⟩ := h
      obtain ⟨rfl, rfl⟩ := List.cons.inj hback
      simp [splitOpening, opening]
    · rw [splitOpening_cons h, Option.map_eq_none_iff, ih]
      exact (and_iff_right h).symm

/-- Two opening marks do not overlap, so the first one is found behind any text without one. -/
lemma splitOpening_append (h : ¬ opening <:+: front) (back : List Char) :
    splitOpening (front ++ (opening ++ back)) = some (front, back) := by
  induction front with
  | nil => rfl
  | cons c front ih =>
    obtain ⟨hhead, htail⟩ := not_or.mp (mt List.infix_cons_iff.mpr h)
    have hfirst : ¬ opening <+: c :: (front ++ (opening ++ back)) := by
      rintro ⟨more, hmore⟩
      cases front with
      | nil => cases hmore
      | cons d front =>
        cases hmore
        exact hhead ⟨front, rfl⟩
    rw [List.cons_append, splitOpening_cons hfirst, ih htail]
    rfl

lemma eq_append_of_splitOpening (h : splitOpening text = some (front, back)) :
    text = front ++ (opening ++ back) ∧ ¬ opening <:+: front := by
  induction text generalizing front with
  | nil => cases h
  | cons c text ih =>
    by_cases hopen : opening <+: c :: text
    · obtain ⟨more, hmore⟩ := hopen
      cases hmore
      cases h
      exact ⟨rfl, by simp [opening]⟩
    · rw [splitOpening_cons hopen] at h
      obtain ⟨⟨front, back⟩, hsplit, hpair⟩ := Option.map_eq_some_iff.mp h
      cases hpair
      obtain ⟨rfl, hfront⟩ := ih hsplit
      refine ⟨rfl, fun hin => ?_⟩
      rcases List.infix_cons_iff.mp hin with hstart | hin
      · exact hopen (hstart.trans (List.prefix_append (c :: front) _))
      · exact hfront hin

lemma splitClosing_eq_none_iff : splitClosing text = none ↔ '\x7d' ∉ text := by
  induction text with
  | nil => exact iff_of_true rfl List.not_mem_nil
  | cons c text ih =>
    by_cases hc : c = '\x7d'
    · simp [splitClosing, hc]
    · simp [splitClosing, hc, ih, Ne.symm hc]

lemma splitClosing_append (h : '\x7d' ∉ front) (back : List Char) :
    splitClosing (front ++ '\x7d' :: back) = some (front, back) := by
  induction front with
  | nil => rfl
  | cons c front ih =>
    obtain ⟨hc, hfront⟩ := not_or.mp (mt List.mem_cons.mpr h)
    rw [List.cons_append, splitClosing, if_neg (Ne.symm hc), ih hfront]
    rfl

lemma eq_append_of_splitClosing (h : splitClosing text = some (front, back)) :
    text = front ++ '\x7d' :: back ∧ '\x7d' ∉ front := by
  induction text generalizing front with
  | nil => cases h
  | cons c text ih =>
    rw [splitClosing] at h
    split at h
    · next hc =>
      cases h
      exact ⟨by rw [hc]; rfl, List.not_mem_nil⟩
    · next hc =>
      obtain ⟨⟨front, back⟩, hsplit, hpair⟩ := Option.map_eq_some_iff.mp h
      cases hpair
      obtain ⟨rfl, hfront⟩ := ih hsplit
      exact ⟨rfl, by simp [Ne.symm hc, hfront]⟩

end Marks

section Decomposition

variable {front name rest template : List Char} {ps : List Piece}

def Piece.Proper : Piece → Prop
  | .literal text => ¬ opening <:+: text
  | .placeholder name => '\x7d' ∉ name
  | .unclosed rest => '\x7d' ∉ rest

/-- What may stand directly behind a piece: a literal is not followed by another one, and an unclosed
placeholder by nothing. -/
def Piece.Precedes : Piece → Piece → Prop
  | .literal _, .literal _ => False
  | .unclosed _, _ => False
  | _, _ => True

structure Decomposes (ps : List Piece) (template : List Char) : Prop where
  proper : ∀ p ∈ ps, p.Proper
  chain : ps.IsChain Piece.Precedes
  spelling : ps.flatMap Piece.spelling = template

lemma pieces_literal (h : ¬ opening <:+: template) : pieces template = literal template := by
  have hnone : splitOpening template = none := splitOpening_eq_none_iff.mpr h
  rw [pieces]
  split
  · rfl
  · next hsome => rw [hnone] at hsome; cases hsome

lemma pieces_unclosed (hfront : ¬ opening <:+: front) (hrest : '\x7d' ∉ rest) :
    pieces (front ++ (opening ++ rest)) = literal front ++ [.unclosed rest] := by
  have hopen := splitOpening_append hfront rest
  have hclose : splitClosing rest = none := splitClosing_eq_none_iff.mpr hrest
  rw [pieces]
  split
  · next h => rw [hopen] at h; cases h
  · next h =>
    rw [hopen] at h
    cases h
    split
    · rfl
    · next h => rw [hclose] at h; cases h

lemma pieces_placeholder (hfront : ¬ opening <:+: front) (hname : '\x7d' ∉ name) :
    pieces (front ++ (opening ++ (name ++ '\x7d' :: rest)))
      = literal front ++ .placeholder name :: pieces rest := by
  have hopen := splitOpening_append hfront (name ++ '\x7d' :: rest)
  have hclose := splitClosing_append hname rest
  rw [pieces]
  split
  · next h => rw [hopen] at h; cases h
  · next h =>
    rw [hopen] at h
    cases h
    split
    · next h => rw [hclose] at h; cases h
    · next h =>
      rw [hclose] at h
      cases h
      rfl

lemma decomposes_nil : Decomposes [] [] := ⟨nofun, .nil, rfl⟩

lemma decomposes_unclosed (h : '\x7d' ∉ rest) : Decomposes [.unclosed rest] (opening ++ rest) :=
  ⟨List.forall_mem_singleton.mpr h, .singleton _, List.append_nil _⟩

lemma Decomposes.placeholder (hname : '\x7d' ∉ name) (h : Decomposes ps rest) :
    Decomposes (.placeholder name :: ps) (opening ++ (name ++ '\x7d' :: rest)) := by
  refine ⟨List.forall_mem_cons.mpr ⟨hname, h.proper⟩, h.chain.cons fun p _ => ?_, ?_⟩
  · cases p <;> trivial
  · simp [Piece.spelling, h.spelling, opening]

lemma Decomposes.literal (hfront : ¬ opening <:+: front) (h : Decomposes ps rest)
    (hhead : ∀ text, ps.head? ≠ some (.literal text)) :
    Decomposes (Template.literal front ++ ps) (front ++ rest) := by
  cases front with
  | nil => exact h
  | cons c front =>
    refine ⟨List.forall_mem_cons.mpr ⟨hfront, h.proper⟩, h.chain.cons fun p hp => ?_, ?_⟩
    · cases p with
      | literal text => exact hhead text hp
      | _ => trivial
    · simp [Template.literal, Piece.spelling, h.spelling]

lemma decomposes_pieces (template : List Char) : Decomposes (pieces template) template := by
  induction template using pieces.induct with
  | case1 template hopen =>
    have hnone : ¬ opening <:+: template := splitOpening_eq_none_iff.mp hopen
    rw [pieces_literal hnone]
    simpa using decomposes_nil.literal hnone nofun
  | case2 template front rest hopen hclose =>
    obtain ⟨rfl, hfront⟩ := eq_append_of_splitOpening hopen
    have hrest : '\x7d' ∉ rest := splitClosing_eq_none_iff.mp hclose
    rw [pieces_unclosed hfront hrest]
    exact (decomposes_unclosed hrest).literal hfront nofun
  | case3 template front back hopen name rest hclose ih =>
    obtain ⟨rfl, hfront⟩ := eq_append_of_splitOpening hopen
    obtain ⟨rfl, hname⟩ := eq_append_of_splitClosing hclose
    rw [pieces_placeholder hfront hname]
    exact (ih.placeholder hname).literal hfront nofun

lemma not_mem_literal_nil (front : List Char) : Piece.literal [] ∉ Template.literal front := by
  cases front <;> simp [Template.literal]

lemma not_mem_pieces_literal_nil (template : List Char) : Piece.literal [] ∉ pieces template := by
  induction template using pieces.induct with
  | case1 template hopen =>
    rw [pieces_literal (splitOpening_eq_none_iff.mp hopen)]
    exact not_mem_literal_nil template
  | case2 template front rest hopen hclose =>
    obtain ⟨rfl, hfront⟩ := eq_append_of_splitOpening hopen
    rw [pieces_unclosed hfront (splitClosing_eq_none_iff.mp hclose)]
    simp [not_mem_literal_nil]
  | case3 template front back hopen name rest hclose ih =>
    obtain ⟨rfl, hfront⟩ := eq_append_of_splitOpening hopen
    obtain ⟨rfl, hname⟩ := eq_append_of_splitClosing hclose
    rw [pieces_placeholder hfront hname]
    simp [not_mem_literal_nil, ih]

def spelled (ps : List Piece) : List Piece := ps.filter fun p => !p.spelling.isEmpty

lemma spelled_literal (text : List Char) (ps : List Piece) :
    spelled (.literal text :: ps) = Template.literal text ++ spelled ps := by
  cases text <;> rfl

lemma pieces_append_spelling (hfront : ¬ opening <:+: front) (hproper : ∀ p ∈ ps, p.Proper)
    (hchain : ps.IsChain Piece.Precedes) (hhead : ∀ text, ps.head? = some (.literal text) → front = []) :
    pieces (front ++ ps.flatMap Piece.spelling) = Template.literal front ++ spelled ps := by
  induction ps generalizing front with
  | nil => simp [pieces_literal hfront, spelled]
  | cons p ps ih =>
    obtain ⟨hp, hps⟩ := List.forall_mem_cons.mp hproper
    obtain ⟨hnext, hrest⟩ := List.isChain_cons.mp hchain
    cases p with
    | literal text =>
      obtain rfl := hhead text rfl
      rw [spelled_literal]
      exact ih hp hps hrest fun text' h => (hnext (.literal text') h).elim
    | placeholder name =>
      have hnil : ¬ opening <:+: [] := by simp [opening]
      have hbehind : pieces (ps.flatMap Piece.spelling) = spelled ps :=
        ih hnil hps hrest fun _ _ => rfl
      have htext : (Piece.placeholder name :: ps).flatMap Piece.spelling
          = opening ++ (name ++ '\x7d' :: ps.flatMap Piece.spelling) := by
        simp [Piece.spelling, opening]
      rw [htext, pieces_placeholder hfront hp, hbehind]
      rfl
    | unclosed rest =>
      obtain rfl : ps = [] := List.head?_eq_none_iff.mp (Option.eq_none_iff_forall_not_mem.mpr hnext)
      have htext : [Piece.unclosed rest].flatMap Piece.spelling = opening ++ rest := by
        simp [Piece.spelling, opening]
      rw [htext, pieces_unclosed hfront hp]
      rfl

lemma Decomposes.pieces_eq (h : Decomposes ps template) : pieces template = spelled ps := by
  have hnil : ¬ opening <:+: [] := by simp [opening]
  have hpieces := pieces_append_spelling hnil h.proper h.chain fun _ _ => rfl
  rwa [List.nil_append, h.spelling] at hpieces

lemma spelled_eq_self (h : Piece.literal [] ∉ ps) : spelled ps = ps := by
  apply List.filter_eq_self.mpr
  intro p hp
  cases p with
  | literal text =>
    have htext : text ≠ [] := by
      rintro rfl
      exact h hp
    simpa [Piece.spelling] using htext
  | _ => rfl

end Decomposition

section Filling

variable {args : List Argument} {ps : List Piece} {p : Piece} {name text : List Char}

inductive Piece.Shows (args : List Argument) : Piece → List Char → Prop
  | literal (text : List Char) : Shows args (.literal text) text
  | unclosed (rest : List Char) : Shows args (.unclosed rest) (opening ++ rest)
  | filled {before behind : List Argument} {a : Argument} : args = before ++ a :: behind →
      (∀ b ∈ before, b.name ≠ a.name) →
      Shows args (.placeholder a.name.toList) a.value.display.toList
  | kept {name : List Char} : (∀ a ∈ args, a.name.toList ≠ name) →
      Shows args (.placeholder name) (opening ++ (name ++ ['\x7d']))

lemma fill_kept (h : ∀ a ∈ args, a.name.toList ≠ name) :
    (Piece.placeholder name).fill args = opening ++ (name ++ ['\x7d']) := by
  have hfind : (args.find? fun a => a.name.toList == name) = none :=
    List.find?_eq_none.mpr fun a ha => by simpa using h a ha
  rw [Piece.fill, hfind]
  rfl

lemma fill_filled {before behind : List Argument} {a : Argument} (h : args = before ++ a :: behind)
    (hbefore : ∀ b ∈ before, b.name ≠ a.name) :
    (Piece.placeholder a.name.toList).fill args = a.value.display.toList := by
  have hfind : (args.find? fun b => b.name.toList == a.name.toList) = some a := by
    apply List.find?_eq_some_iff_append.mpr
    refine ⟨beq_self_eq_true _, before, behind, h, fun b hb => ?_⟩
    have hne : b.name.toList ≠ a.name.toList := fun he => hbefore b hb (String.toList_inj.mp he)
    simpa using hne
  rw [Piece.fill, hfind]

lemma shows_fill (args : List Argument) (p : Piece) : p.Shows args (p.fill args) := by
  cases p with
  | literal text => exact .literal text
  | unclosed rest => exact .unclosed rest
  | placeholder name =>
    cases hfind : args.find? fun a => a.name.toList == name with
    | none =>
      have hkept : ∀ a ∈ args, a.name.toList ≠ name := by
        simpa using List.find?_eq_none.mp hfind
      rw [fill_kept hkept]
      exact .kept hkept
    | some a =>
      obtain ⟨hname, before, behind, hargs, hbefore⟩ := List.find?_eq_some_iff_append.mp hfind
      obtain rfl : a.name.toList = name := by simpa using hname
      have hfirst : ∀ b ∈ before, b.name ≠ a.name := by
        intro b hb he
        simpa [he] using hbefore b hb
      rw [fill_filled hargs hfirst]
      exact .filled hargs hfirst

lemma Piece.Shows.eq_fill (h : p.Shows args text) : text = p.fill args := by
  cases h with
  | literal => rfl
  | unclosed => rfl
  | filled hargs hbefore => rw [fill_filled hargs hbefore]
  | kept hargs => rw [fill_kept hargs]

lemma forall₂_shows_iff {texts : List (List Char)} :
    List.Forall₂ (Piece.Shows args) ps texts ↔ texts = ps.map (Piece.fill args) := by
  constructor
  · intro h
    induction h with
    | nil => rfl
    | cons hp _ ih => rw [hp.eq_fill, ih, List.map_cons]
  · rintro rfl
    rw [List.forall₂_map_right_iff, List.forall₂_same]
    exact fun p _ => shows_fill args p

lemma flatMap_fill_literal (args : List Argument) (text : List Char) :
    (Template.literal text).flatMap (Piece.fill args) = text := by
  cases text <;> simp [Template.literal, Piece.fill, Piece.spelling]

lemma flatMap_fill_spelled (args : List Argument) (ps : List Piece) :
    (spelled ps).flatMap (Piece.fill args) = ps.flatMap (Piece.fill args) := by
  induction ps with
  | nil => rfl
  | cons p ps ih =>
    cases p with
    | literal text =>
      rw [spelled_literal, List.flatMap_append, ih, flatMap_fill_literal]
      rfl
    | _ => exact congrArg (_ ++ ·) ih

lemma interpolate_final {front : String} {a : Argument} (hfront : ¬ opening <:+: front.toList)
    (hname : '\x7d' ∉ a.name.toList) (behind : List Argument) :
    interpolate (front ++ ("%\x7b" ++ (a.name ++ "\x7d"))) (a :: behind)
      = front ++ a.value.display := by
  have htemplate : (front ++ ("%\x7b" ++ (a.name ++ "\x7d"))).toList
      = front.toList ++ (opening ++ (a.name.toList ++ ['\x7d'])) := by
    simp [opening]
  have hnone : pieces [] = [] := pieces_literal (by simp [opening])
  have hfill : (Piece.placeholder a.name.toList).fill (a :: behind) = a.value.display.toList :=
    fill_filled rfl (List.forall_mem_nil _)
  rw [interpolate, htemplate, pieces_placeholder hfront hname, hnone, List.flatMap_append,
    flatMap_fill_literal, List.flatMap_singleton, hfill, String.ofList_append, String.ofList_toList,
    String.ofList_toList]

theorem interpolate_piecewise (template : String) (args : List Argument) :
    (∃! ps, Decomposes ps template.toList ∧ Piece.literal [] ∉ ps) ∧
      ∀ ps, Decomposes ps template.toList →
        ∃ texts, (∀ shown, List.Forall₂ (Piece.Shows args) ps shown ↔ shown = texts) ∧
          interpolate template args = String.ofList texts.flatten := by
  refine ⟨⟨pieces template.toList, ⟨decomposes_pieces _, not_mem_pieces_literal_nil _⟩, ?_⟩, ?_⟩
  · rintro ps ⟨hps, hliteral⟩
    rw [hps.pieces_eq, spelled_eq_self hliteral]
  · intro ps hps
    refine ⟨ps.map (Piece.fill args), fun shown => forall₂_shows_iff, ?_⟩
    rw [interpolate, hps.pieces_eq, flatMap_fill_spelled, List.flatMap_def]

theorem interpolate_piecewise_nested :
    let template := "é%%\x7bleft\x7d%\x7ba%\x7bright\x7d\x7d%\x7bright\x7d%\x7boops"
    let args := [Argument.mk "left" (.string "%\x7bright\x7d"), Argument.mk "right" (.integer 2),
      Argument.mk "right" (.integer 3)]
    let ps := [Piece.literal ['é', '%'], .placeholder "left".toList, .placeholder "a%\x7bright".toList,
      .literal ['\x7d'], .placeholder "right".toList, .unclosed "oops".toList]
    Decomposes ps template.toList ∧
      interpolate template args = "é%%\x7bright\x7d%\x7ba%\x7bright\x7d\x7d2%\x7boops" := by
  intro template args ps
  have hps : Decomposes ps template.toList := by
    refine ⟨?_, ?_, by decide⟩
    · intro p hp
      simp only [ps, List.mem_cons, List.not_mem_nil, or_false] at hp
      rcases hp with rfl | rfl | rfl | rfl | rfl | rfl <;> rw [Piece.Proper] <;> decide
    · simp [ps, Piece.Precedes]
  obtain ⟨texts, hshown, hmessage⟩ := (interpolate_piecewise template args).2 ps hps
  refine ⟨hps, ?_⟩
  have htexts : ps.map (Piece.fill args) = texts := (hshown _).mp (forall₂_shows_iff.mpr rfl)
  rw [hmessage, ← htexts]
  rfl

end Filling

end Conform.Template
