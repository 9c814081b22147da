import Conform.Message.TemplateSet
import Conform.Proofs.Message.Interpolation

/-! Where the placeholder of an argument still stands in a message. Names and shown texts are plain:
none of the characters of a placeholder is in them. Then there are two ways only. An opening mark
further in front has taken the closing brace, and what it opens is a name that no argument has. Or
placeholders that show nothing bring a percent sign and a brace together. -/

namespace Conform.Template

variable {args : List Argument} {ps : List Piece} {p : Piece} {m name text left right rest : List Char}

def Plain (text : String) : Prop :=
  '%' ∉ text.toList ∧ '\x7b' ∉ text.toList ∧ '\x7d' ∉ text.toList

def Swallowed (ps : List Piece) (name : List Char) : Prop :=
  ∃ front, Piece.placeholder (front ++ (opening ++ name)) ∈ ps

/-- Nothing is shown between a percent sign and a brace, and the name goes on from there. -/
def Joined (args : List Argument) (ps : List Piece) (name : List Char) : Prop :=
  ∃ before text between brace behind,
    ps = before ++ .literal (text ++ ['%']) :: (between ++ .literal ('\x7b' :: brace) :: behind) ∧
    (∀ p ∈ between, p.fill args = []) ∧
    name ++ ['\x7d'] <+: brace ++ behind.flatMap (Piece.fill args)

instance (text : String) : Decidable (Plain text) := inferInstanceAs (Decidable (_ ∧ _ ∧ _))

lemma spelling_placeholder (name : List Char) :
    (Piece.placeholder name).spelling = opening ++ (name ++ ['\x7d']) := rfl

lemma suffix_of_infix_closed (hm : '\x7d' ∉ m)
    (h : opening ++ (name ++ ['\x7d']) <:+: opening ++ (m ++ ['\x7d'])) :
    opening ++ name <:+ opening ++ m := by
  rw [← List.append_assoc, ← List.append_assoc, List.infix_concat_iff] at h
  rcases h with h | h
  · obtain ⟨front, hfront⟩ := h
    rw [← List.append_assoc] at hfront
    exact ⟨front, List.append_cancel_right hfront⟩
  · have hclose : '\x7d' ∈ opening ++ m := h.subset (by simp)
    simp [opening, hm] at hclose

lemma swallowed_of_infix (hp : p.Proper) (hs : p.Shows args text)
    (hvalues : ∀ a ∈ args, Plain a.value.display) (hname : ∃ a ∈ args, a.name.toList = name)
    (h : opening ++ (name ++ ['\x7d']) <:+: text) :
    ∃ front, p = .placeholder (front ++ (opening ++ name)) := by
  have hopen : opening <:+: text := (List.prefix_append opening _).isInfix.trans h
  cases hs with
  | literal => exact absurd hopen hp
  | unclosed rest =>
    have hrest : '\x7d' ∉ rest := hp
    have hclose : '\x7d' ∈ opening ++ rest := h.subset (by simp)
    simp [opening, hrest] at hclose
  | @filled before behind a hargs =>
    have ha : a ∈ args := by simp [hargs]
    exact absurd (hopen.subset List.mem_cons_self) (hvalues a ha).1
  | @kept m hkept =>
    have hsuffix : opening ++ name <:+ '%' :: '\x7b' :: m := suffix_of_infix_closed hp h
    rcases List.suffix_cons_iff.mp hsuffix with heq | hsuffix
    · have hopened : opening ++ name = opening ++ m := heq
      obtain rfl : name = m := List.append_cancel_left hopened
      obtain ⟨a, ha, haname⟩ := hname
      exact absurd haname (hkept a ha)
    · rcases List.suffix_cons_iff.mp hsuffix with heq | ⟨front, rfl⟩
      · cases heq
      · exact ⟨front, rfl⟩

lemma literal_of_straddles (hp : p.Proper) (hs : p.Shows args text)
    (hvalues : ∀ a ∈ args, Plain a.value.display) (hname : '\x7d' ∉ name) (hleft : left ≠ [])
    (hright : right ≠ []) (h : opening ++ (name ++ ['\x7d']) = left ++ right) (hsuffix : left <:+ text) :
    (∃ front, p = .literal (front ++ ['%']) ∧ right = '\x7b' :: (name ++ ['\x7d'])) ∨
      ∃ rest, p = .unclosed rest := by
  obtain ⟨c, left, rfl⟩ := List.exists_cons_of_ne_nil hleft
  obtain rfl : '%' = c := (List.cons.inj h).1
  cases hs with
  | unclosed rest => exact .inr ⟨rest, rfl⟩
  | literal text =>
    cases left with
    | nil =>
      obtain ⟨front, rfl⟩ := hsuffix
      exact .inl ⟨front, rfl, (List.cons.inj h).2.symm⟩
    | cons d left =>
      obtain rfl : '\x7b' = d := (List.cons.inj (List.cons.inj h).2).1
      have hopen : opening <:+: text := (List.prefix_append opening left).isInfix.trans hsuffix.isInfix
      exact absurd hopen hp
  | @filled before behind a hargs =>
    have ha : a ∈ args := by simp [hargs]
    exact absurd (hsuffix.subset List.mem_cons_self) (hvalues a ha).1
  | @kept m hkept =>
    -- such a piece ends in a closing brace, which the placeholder has at its very end only
    have hclose : '\x7d' ∈ '%' :: left := by
      rw [← List.append_assoc] at hsuffix
      rcases List.suffix_concat_iff.mp hsuffix with hnil | ⟨front, hfront, _⟩
      · cases hnil
      · simp [hfront]
    obtain ⟨right, c, rfl⟩ := List.eq_nil_or_concat right |>.resolve_left hright
    have hinit : opening ++ name = '%' :: left ++ right := by
      rw [List.concat_eq_append, ← List.append_assoc, ← List.append_assoc] at h
      exact (List.append_inj' h rfl).1
    have hmem : '\x7d' ∈ opening ++ name := hinit ▸ List.mem_append_left right hclose
    simp [opening, hname] at hmem

lemma literal_of_brace (hvalues : ∀ a ∈ args, Plain a.value.display)
    (h : ps.flatMap (Piece.fill args) = '\x7b' :: rest) :
    ∃ between brace behind, ps = between ++ .literal ('\x7b' :: brace) :: behind ∧
      (∀ p ∈ between, p.fill args = []) ∧ rest = brace ++ behind.flatMap (Piece.fill args) := by
  induction ps with
  | nil => cases h
  | cons p ps ih =>
    rw [List.flatMap_cons] at h
    have hs : p.Shows args (p.fill args) := shows_fill args p
    generalize htext : p.fill args = text at h hs
    cases text with
    | nil =>
      obtain ⟨between, brace, behind, rfl, hbetween, hrest⟩ := ih h
      exact ⟨p :: between, brace, behind, rfl, List.forall_mem_cons.mpr ⟨htext, hbetween⟩, hrest⟩
    | cons c text =>
      obtain ⟨rfl, rfl⟩ := List.cons.inj h
      generalize hshown : '\x7b' :: text = shown at hs
      cases hs with
      | literal => exact ⟨[], text, ps, by rw [hshown]; rfl, nofun, rfl⟩
      | unclosed => cases hshown
      | kept => cases hshown
      | @filled before behind a hargs =>
        have ha : a ∈ args := by simp [hargs]
        exact absurd (hshown ▸ List.mem_cons_self) (hvalues a ha).2.1

lemma swallowed_or_joined (hproper : ∀ p ∈ ps, p.Proper) (hchain : ps.IsChain Piece.Precedes)
    (hvalues : ∀ a ∈ args, Plain a.value.display) (hclean : '\x7d' ∉ name)
    (hname : ∃ a ∈ args, a.name.toList = name)
    (h : opening ++ (name ++ ['\x7d']) <:+: ps.flatMap (Piece.fill args)) :
    Swallowed ps name ∨ Joined args ps name := by
  induction ps with
  | nil => cases List.infix_nil.mp h
  | cons p ps ih =>
    obtain ⟨hp, hps⟩ := List.forall_mem_cons.mp hproper
    obtain ⟨hnext, hrest⟩ := List.isChain_cons.mp hchain
    have hs : p.Shows args (p.fill args) := shows_fill args p
    rw [List.flatMap_cons, List.infix_append_iff_ne_nil] at h
    rcases h with h | h | ⟨left, right, hleft, hright, heq, hsuffix, hstart⟩
    · obtain ⟨front, rfl⟩ := swallowed_of_infix hp hs hvalues hname h
      exact .inl ⟨front, List.mem_cons_self⟩
    · rcases ih hps hrest h with ⟨front, hmem⟩ | ⟨before, hjoined⟩
      · exact .inl ⟨front, List.mem_cons_of_mem p hmem⟩
      · obtain ⟨text, between, brace, behind, rfl, hbehind⟩ := hjoined
        exact .inr ⟨p :: before, text, between, brace, behind, rfl, hbehind⟩
    · rcases literal_of_straddles hp hs hvalues hclean hleft hright heq hsuffix with
        ⟨front, rfl, rfl⟩ | ⟨rest, rfl⟩
      · obtain ⟨more, hmore⟩ := hstart
        obtain ⟨between, brace, behind, rfl, hbetween, hbehind⟩ := literal_of_brace hvalues hmore.symm
        exact .inr ⟨[], front, between, brace, behind, rfl, hbetween, more, hbehind⟩
      · obtain rfl : ps = [] :=
          List.head?_eq_none_iff.mp (Option.eq_none_iff_forall_not_mem.mpr hnext)
        exact absurd (List.prefix_nil.mp hstart) hright

lemma infix_of_swallowed (hnames : ∀ a ∈ args, Plain a.name) (h : Swallowed ps name) :
    opening ++ (name ++ ['\x7d']) <:+: ps.flatMap (Piece.fill args) := by
  obtain ⟨front, hmem⟩ := h
  have hkept : ∀ a ∈ args, a.name.toList ≠ front ++ (opening ++ name) := by
    intro a ha haname
    apply (hnames a ha).1
    rw [haname]
    simp [opening]
  have hfill : (Piece.placeholder (front ++ (opening ++ name))).fill args <:+:
      ps.flatMap (Piece.fill args) := List.infix_of_mem_flatten (List.mem_map_of_mem hmem)
  refine List.IsInfix.trans ⟨opening ++ front, [], ?_⟩ hfill
  simp [fill_kept hkept]

lemma infix_of_joined (h : Joined args ps name) :
    opening ++ (name ++ ['\x7d']) <:+: ps.flatMap (Piece.fill args) := by
  obtain ⟨before, text, between, brace, behind, rfl, hbetween, more, hmore⟩ := h
  have hnothing : between.flatMap (Piece.fill args) = [] := List.flatMap_eq_nil_iff.mpr hbetween
  refine ⟨before.flatMap (Piece.fill args) ++ text, more, ?_⟩
  simp only [List.flatMap_append, List.flatMap_cons, hnothing, List.nil_append]
  simp [Piece.fill, Piece.spelling, opening, ← hmore]

theorem resolve_shows_placeholder_iff {set : TemplateSet} {check : Check} {template : String}
    (htemplate : set.template? check = some template) (hnames : ∀ a ∈ args, Plain a.name)
    (hvalues : ∀ a ∈ args, Plain a.value.display) :
    ∀ a ∈ args,
      (Piece.placeholder a.name.toList).spelling <:+: (set.resolve check args).toList ↔
        Swallowed (pieces template.toList) a.name.toList ∨
          Joined args (pieces template.toList) a.name.toList := by
  intro a ha
  have hmessage : (set.resolve check args).toList
      = (pieces template.toList).flatMap (Piece.fill args) := by
    rw [TemplateSet.resolve, htemplate]
    exact String.toList_ofList
  have hpieces := decomposes_pieces template.toList
  rw [hmessage, spelling_placeholder]
  constructor
  · exact swallowed_or_joined hpieces.proper hpieces.chain hvalues (hnames a ha).2.2 ⟨a, ha, rfl⟩
  · rintro (h | h)
    · exact infix_of_swallowed hnames h
    · exact infix_of_joined h

theorem resolve_shows_placeholder_iff_both :
    let set : TemplateSet := ⟨OrderedMap.empty, OrderedMap.empty,
      OrderedMap.ofList [("p?", "%\x7boops %\x7bnum\x7d 5%%\x7bunit\x7d\x7bunit\x7d")]⟩
    let args := [Argument.mk "num" (.integer 5), Argument.mk "unit" (.string "")]
    let message := (set.resolve (.predicate "p?") args).toList
    (Piece.placeholder "num".toList).spelling <:+: message ∧
      (Piece.placeholder "unit".toList).spelling <:+: message := by
  intro set args message
  have hplain : ∀ a ∈ args, Plain a.name ∧ Plain a.value.display := by
    intro a ha
    simp only [args, List.mem_cons, List.not_mem_nil, or_false] at ha
    rcases ha with rfl | rfl <;> decide
  have hpieces : pieces "%\x7boops %\x7bnum\x7d 5%%\x7bunit\x7d\x7bunit\x7d".toList
      = [.placeholder ("oops ".toList ++ (opening ++ "num".toList)), .literal (" 5".toList ++ ['%']),
        .placeholder "unit".toList, .literal ('\x7b' :: "unit\x7d".toList)] := by
    with_unfolding_all rfl
  have htemplate : set.template? (.predicate "p?")
      = some "%\x7boops %\x7bnum\x7d 5%%\x7bunit\x7d\x7bunit\x7d" := rfl
  have hiff := resolve_shows_placeholder_iff htemplate (fun a ha => (hplain a ha).1)
    fun a ha => (hplain a ha).2
  rw [hpieces] at hiff
  constructor
  · exact (hiff ⟨"num", .integer 5⟩ (by simp [args])).mpr (.inl ⟨"oops ".toList, List.mem_cons_self⟩)
  · refine (hiff ⟨"unit", .string ""⟩ (by simp [args])).mpr (.inr ?_)
    refine ⟨[.placeholder ("oops ".toList ++ (opening ++ "num".toList))], " 5".toList,
      [.placeholder "unit".toList], "unit\x7d".toList, [], rfl, ?_, ?_⟩
    · rw [List.forall_mem_singleton]
      rfl
    · decide

/-- The first template opens a placeholder and does not close it. In the second one the argument in
the middle is the empty text. -/
theorem plain_arguments_leave_placeholder :
    let set (template : String) : TemplateSet :=
      ⟨OrderedMap.empty, OrderedMap.empty, OrderedMap.ofList [("p?", template)]⟩
    let args := [Argument.mk "num" (.integer 5), Argument.mk "unit" (.string "")]
    let stray := (set "%\x7boops %\x7bnum\x7d").resolve (.predicate "p?") args
    let joined := (set "%%\x7bunit\x7d\x7bnum\x7d").resolve (.predicate "p?") args
    (∀ a ∈ args, Plain a.name ∧ Plain a.value.display) ∧
      stray = "%\x7boops %\x7bnum\x7d" ∧
      (Piece.placeholder "num".toList).spelling <:+: stray.toList ∧
      joined = "%\x7bnum\x7d" ∧
      (Piece.placeholder "num".toList).spelling <:+: joined.toList := by
  intro set args stray joined
  have hstray : stray = "%\x7boops %\x7bnum\x7d" := by decide +kernel
  have hjoined : joined = "%\x7bnum\x7d" := by decide +kernel
  refine ⟨?_, hstray, ?_, hjoined, ?_⟩
  · intro a ha
    simp only [args, List.mem_cons, List.not_mem_nil, or_false] at ha
    rcases ha with rfl | rfl <;> decide
  · rw [hstray]
    decide
  · rw [hjoined]
    decide

end Conform.Template
