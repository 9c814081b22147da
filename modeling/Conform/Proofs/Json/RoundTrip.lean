import Conform.Proofs.Json.FloatText

/-! Reading undoes printing. A document is legible if it nests no deeper than there is room for and
its numbers have a text that means the same number; what is printed of a legible document reads back
as that document, with every item and every entry in its place, without blanks and on many lines. -/

namespace Conform.Json

/-- The number that stands in the text of the float means the float. -/
def ReadsBack (x : Float) : Prop := ∀ n, number? (floatText x) = some (n, []) → n.toFloat? = some x

lemma readsBack_of_eq {x : Float}
    (h : (number? (floatText x)).bind (fun read => read.1.toFloat?) = some x) : ReadsBack x := by
  intro n hn
  rwa [hn] at h

inductive Legible : Nat → Document → Prop
  | null {room} : Legible room .null
  | boolean {room b} : Legible room (.boolean b)
  | integer {room n} : -9223372036854775808 ≤ n → n < 18446744073709551616 →
      Legible room (.integer n)
  | float {room x} : x.isFinite = true → ReadsBack x → Legible room (.float x)
  | string {room s} : Legible room (.string s)
  | array {room items} : (∀ d ∈ items, Legible room d) → Legible (room + 1) (.array items)
  | object {room entries} : (∀ e ∈ entries, Legible room e.2) →
      Legible (room + 1) (.object entries)

def Blank (text : List Char) : Prop := ∀ c ∈ text, isBlank c = true

structure Returns (room : Nat) (text : List Char) (d : Document) : Prop where
  head : ∃ c tail, text = c :: tail ∧ isBlank c = false ∧ c ≠ ']'
  value : ∀ fuel rest, 2 * text.length ≤ fuel → Delimited rest →
    ∃ raw, value? fuel (text ++ rest) = some (raw, rest) ∧ raw.document room = d

variable {room : Nat} {rest gap close : List Char} {c : Char}

section Blanks

lemma blank_nil : Blank [] := nofun

lemma skipBlanks_cons (h : isBlank c = false) (text : List Char) :
    skipBlanks (c :: text) = c :: text := by
  rw [skipBlanks, List.dropWhile_cons, h]
  rfl

lemma skipBlanks_append (h : Blank gap) (text : List Char) :
    skipBlanks (gap ++ text) = skipBlanks text := List.dropWhile_append_of_pos h

lemma value?_append (h : Blank gap) (fuel : Nat) (text : List Char) :
    value? fuel (gap ++ text) = value? fuel text := by
  cases fuel with
  | zero => rfl
  | succ fuel => rw [value?, value?, skipBlanks_append h]

lemma items?_append (h : Blank gap) (fuel : Nat) (text : List Char) :
    items? fuel (gap ++ text) = items? fuel text := by
  cases fuel with
  | zero => rfl
  | succ fuel => rw [items?, items?, value?_append h]

lemma members?_append (h : Blank gap) (fuel : Nat) (text : List Char) :
    members? fuel (gap ++ text) = members? fuel text := by
  cases fuel with
  | zero => rfl
  | succ fuel => rw [members?, members?, skipBlanks_append h]

lemma delimited_append (h : Blank gap) (hrest : Delimited rest) :
    Delimited (gap ++ rest) := by
  cases gap with
  | nil => exact hrest
  | cons c gap => exact delimited_cons (.inl (h c List.mem_cons_self)) _

end Blanks

section Leaves

lemma not_blank_of_number (h : c = '-' ∨ c.isDigit = true) : isBlank c = false := by
  rcases h with rfl | h
  · rfl
  · by_contra hb
    simp only [isBlank, Bool.not_eq_false, Bool.or_eq_true, beq_iff_eq] at hb
    rcases hb with ((rfl | rfl) | rfl) | rfl <;> exact absurd h (by decide)

lemma ne_of_number (h : c = '-' ∨ c.isDigit = true) :
    ∀ other ∈ ['n', 't', 'f', '"', '[', ']', '\x7b'], c ≠ other := by
  rintro other hother rfl
  have hnot : ['n', 't', 'f', '"', '[', ']', '\x7b'].all (fun c => !(c == '-' || c.isDigit)) = true :=
    rfl
  have hc := List.all_eq_true.mp hnot c hother
  rcases h with rfl | h
  · cases hc
  · simp [h] at hc

lemma value?_number (h : c = '-' ∨ c.isDigit = true) (fuel : Nat) (text : List Char) :
    value? (fuel + 1) (c :: text)
      = (number? (c :: text)).map fun (n, left) => (.number n, left) := by
  rw [value?, skipBlanks_cons (not_blank_of_number h)]
  have hne := ne_of_number h
  split
  · next heq => exact absurd (List.cons.inj heq).1 (hne 'n' (by decide))
  · next heq => exact absurd (List.cons.inj heq).1 (hne 't' (by decide))
  · next heq => exact absurd (List.cons.inj heq).1 (hne 'f' (by decide))
  · next heq => exact absurd (List.cons.inj heq).1 (hne '"' (by decide))
  · next heq => exact absurd (List.cons.inj heq).1 (hne '[' (by decide))
  · next heq => exact absurd (List.cons.inj heq).1 (hne '\x7b' (by decide))
  · rfl

lemma returns_of_numeral {d : Document} {n : Numeral} (h : number? (compact d) = some (n, []))
    (hd : (Raw.number n).document room = d) : Returns room (compact d) d := by
  obtain ⟨c, tail, htext, hc⟩ := head_of_number? h
  refine ⟨⟨c, tail, htext, not_blank_of_number hc, ne_of_number hc ']' (by decide)⟩, ?_⟩
  intro fuel rest hfuel hrest
  obtain ⟨fuel, rfl⟩ : ∃ k, fuel = k + 1 := ⟨fuel - 1, by simp [htext] at hfuel; omega⟩
  refine ⟨.number n, ?_, hd⟩
  rw [htext, List.cons_append, value?_number hc, ← List.cons_append, ← htext,
    number?_append hrest, h]
  rfl

lemma number?_integer (n : Int) : number? (compact (.integer n)) = some (numeralOf n, []) := by
  rw [compact, number?_integerText]

lemma number?_float {x : Float} (h : x.isFinite = true) :
    ∃ n, number? (compact (.float x)) = some (n, []) ∧ (n.fraction ≠ [] ∨ n.exponent ≠ none) := by
  rw [compact]
  exact number?_floatText h

lemma returns_integer {n : Int} (hlow : -9223372036854775808 ≤ n)
    (hhigh : n < 18446744073709551616) : Returns room (compact (.integer n)) (.integer n) := by
  apply returns_of_numeral (number?_integer n)
  rw [Raw.document, number?_numeralOf hlow hhigh]
  rfl

lemma number?_eq_float {n : Numeral} {x : Float} (h : n.fraction ≠ [] ∨ n.exponent ≠ none)
    (hx : n.toFloat? = some x) : n.number? = some (.float x) := by
  have hnot : (n.fraction.isEmpty && n.exponent.isNone) = false := by
    rcases h with h | h <;> simp [h, Option.isSome_iff_ne_none]
  simp only [Numeral.number?, hnot, Bool.false_and, Bool.false_eq_true, if_false, hx, Option.map_some]

lemma returns_float {x : Float} (hfinite : x.isFinite = true) (h : ReadsBack x) :
    Returns room (compact (.float x)) (.float x) := by
  obtain ⟨n, hn, hfraction⟩ := number?_float hfinite
  have hx : n.toFloat? = some x := h n (by rwa [compact] at hn)
  apply returns_of_numeral hn
  rw [Raw.document, number?_eq_float hfraction hx]
  rfl

lemma returns_string (s : String) : Returns room (compact (.string s)) (.string s) := by
  refine ⟨⟨_, _, by rw [compact, quoted]; rfl, rfl, by decide⟩, ?_⟩
  intro fuel rest hfuel hrest
  obtain ⟨fuel, rfl⟩ : ∃ k, fuel = k + 1 := ⟨fuel - 1, by simp [compact, quoted] at hfuel; omega⟩
  refine ⟨.string (s.toList.map letter), ?_, ?_⟩
  · have hquoted : compact (.string s) ++ rest = '"' :: (s.toList.flatMap escaped ++ '"' :: rest) := by
      simp [compact, quoted]
    rw [hquoted, value?, skipBlanks_cons rfl]
    simp only [letters?_quoted, Option.map_some]
  · rw [Raw.document, string?_map_letter]
    rfl

lemma returns_word {d : Document} {raw : Raw} {c : Char} {word : List Char}
    (hvalue : ∀ fuel rest, value? (fuel + 1) (c :: word ++ rest) = some (raw, rest))
    (hblank : isBlank c = false) (hc : c ≠ ']') (hd : raw.document room = d) :
    Returns room (c :: word) d := by
  refine ⟨⟨c, word, rfl, hblank, hc⟩, ?_⟩
  intro fuel rest hfuel hrest
  obtain ⟨fuel, rfl⟩ : ∃ k, fuel = k + 1 := ⟨fuel - 1, by simp at hfuel; omega⟩
  exact ⟨raw, hvalue fuel rest, hd⟩

end Leaves

section Layout

def framed (gap close : List Char) (opening closing : Char) : List (List Char) → List Char
  | [] => [opening, closing]
  | parts => opening :: gap ++ separated (',' :: gap) parts ++ close ++ [closing]

variable {sep : List Char} {text : Document → List Char} {items : List Document}
  {entries : List (String × Document)}

lemma separated_eq_append (sep part : List Char) (parts : List (List Char)) :
    ∃ more, separated sep (part :: parts) = part ++ more := by
  cases parts with
  | nil => exact ⟨[], by rw [separated, List.append_nil]⟩
  | cons next parts => exact ⟨sep ++ separated sep (next :: parts), by simp [separated]⟩

lemma items?_separated (hgap : Blank gap) (hclose : Blank close) (hne : items ≠ [])
    (h : ∀ d ∈ items, Returns room (text d) d) :
    ∀ fuel rest, 2 * (separated (',' :: gap) (items.map text)).length + 1 ≤ fuel →
      ∃ raws, items? fuel (separated (',' :: gap) (items.map text) ++ (close ++ ']' :: rest))
          = some (raws, rest) ∧ Raw.documents room raws = items := by
  induction items with
  | nil => exact absurd rfl hne
  | cons d ds ih =>
    intro fuel rest hfuel
    obtain ⟨fuel, rfl⟩ : ∃ k, fuel = k + 1 := ⟨fuel - 1, by omega⟩
    obtain ⟨hd, hds⟩ := List.forall_mem_cons.mp h
    cases ds with
    | nil =>
      rw [List.map_singleton, separated] at hfuel ⊢
      have hend : Delimited (close ++ ']' :: rest) :=
        delimited_append hclose (delimited_cons (by simp) rest)
      obtain ⟨raw, hraw, hdoc⟩ := hd.value fuel _ (by omega) hend
      refine ⟨[raw], ?_, ?_⟩
      · rw [items?, hraw]
        simp only [Option.bind_eq_bind, Option.bind_some, skipBlanks_append hclose,
          skipBlanks_cons (rfl : isBlank ']' = false)]
      · rw [Raw.documents, hdoc]
        rfl
    | cons e es =>
      have htext : separated (',' :: gap) ((d :: e :: es).map text)
          = text d ++ ',' :: (gap ++ separated (',' :: gap) ((e :: es).map text)) := by
        simp [separated]
      rw [htext] at hfuel ⊢
      simp only [List.length_append, List.length_cons] at hfuel
      rw [List.append_assoc, List.cons_append, List.append_assoc]
      obtain ⟨raw, hraw, hdoc⟩ := hd.value fuel _ (by omega) (delimited_cons (.inr (.inl rfl)) _)
      obtain ⟨raws, hraws, hdocs⟩ := ih nofun hds fuel rest (by omega)
      refine ⟨raw :: raws, ?_, ?_⟩
      · rw [items?, hraw]
        simp only [Option.bind_eq_bind, Option.bind_some, skipBlanks_cons (rfl : isBlank ',' = false),
          items?_append hgap, hraws, Option.map_some]
      · rw [Raw.documents, hdoc, hdocs]

lemma value?_array (hgap : Blank gap) (hblank : isBlank c = false) (hc : c ≠ ']')
    (fuel : Nat) (text : List Char) : value? (fuel + 1) ('[' :: (gap ++ c :: text))
      = (items? fuel (c :: text)).map fun (raws, left) => (.array raws, left) := by
  rw [value?, skipBlanks_cons rfl]
  simp only [skipBlanks_append hgap, skipBlanks_cons hblank]
  split
  · next heq => exact absurd (List.cons.inj heq).1 hc
  · rfl

lemma returns_array (hgap : Blank gap) (hclose : Blank close)
    (h : ∀ d ∈ items, Returns room (text d) d) :
    Returns (room + 1) (framed gap close '[' ']' (items.map text)) (.array items) := by
  cases items with
  | nil => exact returns_word (fun _ _ => rfl) rfl (by decide) rfl
  | cons d ds =>
    refine ⟨⟨'[', _, rfl, rfl, by decide⟩, ?_⟩
    intro fuel rest hfuel hrest
    obtain ⟨c, tail, hhead, hblank, hc⟩ := (h d List.mem_cons_self).head
    obtain ⟨more, hmore⟩ := separated_eq_append (',' :: gap) (text d) (ds.map text)
    have htext : framed gap close '[' ']' ((d :: ds).map text)
        = '[' :: (gap ++ (separated (',' :: gap) ((d :: ds).map text) ++ (close ++ [']']))) := by
      simp [framed]
    rw [htext] at hfuel ⊢
    simp only [List.length_append, List.length_cons] at hfuel
    obtain ⟨fuel, rfl⟩ : ∃ k, fuel = k + 1 := ⟨fuel - 1, by omega⟩
    obtain ⟨raws, hraws, hdocs⟩ := items?_separated hgap hclose (List.cons_ne_nil d ds) h fuel rest
      (by omega)
    refine ⟨.array raws, ?_, by rw [Raw.document, hdocs]⟩
    have hfirst : separated (',' :: gap) ((d :: ds).map text) = c :: (tail ++ more) := by
      rw [List.map_cons, hmore, hhead, List.cons_append]
    rw [hfirst, List.cons_append] at hraws
    simp only [hfirst, List.cons_append, List.append_assoc, List.nil_append]
    rw [value?_array hgap hblank hc, ← List.append_assoc tail, hraws]
    rfl

def afterMember? (fuel : Nat) (member : List Letter × Raw) (text : List Char) :
    Option (List (List Letter × Raw) × List Char) :=
  match skipBlanks text with
  | ',' :: text => (members? fuel text).map fun (es, left) => (member :: es, left)
  | '\x7d' :: text => some ([member], text)
  | _ => none

def member (gap : List Char) (text : Document → List Char) (e : String × Document) : List Char :=
  quoted e.1 ++ ':' :: (gap ++ text e.2)

lemma members?_member (hsep : Blank sep) (e : String × Document) (fuel : Nat)
    (rest : List Char) : members? (fuel + 1) (member sep text e ++ rest)
      = (value? fuel (text e.2 ++ rest)).bind fun (raw, left) =>
        afterMember? fuel (e.1.toList.map letter, raw) left := by
  have hquoted : member sep text e ++ rest
      = '"' :: (e.1.toList.flatMap escaped ++ '"' :: ':' :: (sep ++ (text e.2 ++ rest))) := by
    simp [member, quoted]
  rw [hquoted, members?, skipBlanks_cons rfl]
  simp only [letters?_quoted, Option.bind_eq_bind, Option.bind_some,
    skipBlanks_cons (rfl : isBlank ':' = false), value?_append hsep]
  rfl

lemma afterMember?_comma (fuel : Nat) (member : List Letter × Raw) (text : List Char) :
    afterMember? fuel member (',' :: text)
      = (members? fuel text).map fun (es, left) => (member :: es, left) := by
  rw [afterMember?, skipBlanks_cons rfl]
  rfl

lemma afterMember?_close (hclose : Blank close) (fuel : Nat)
    (member : List Letter × Raw) (text : List Char) :
    afterMember? fuel member (close ++ '\x7d' :: text) = some ([member], text) := by
  rw [afterMember?, skipBlanks_append hclose, skipBlanks_cons rfl]
  rfl

lemma members?_separated (hsep : Blank sep) (hgap : Blank gap) (hclose : Blank close) (hne : entries ≠ [])
    (h : ∀ e ∈ entries, Returns room (text e.2) e.2) :
    ∀ fuel rest, 2 * (separated (',' :: gap) (entries.map (member sep text))).length + 1 ≤ fuel →
      ∃ raws, members? fuel
          (separated (',' :: gap) (entries.map (member sep text)) ++ (close ++ '\x7d' :: rest))
          = some (raws, rest) ∧ Raw.entriesOf room raws = some entries := by
  induction entries with
  | nil => exact absurd rfl hne
  | cons e es ih =>
    intro fuel rest hfuel
    obtain ⟨fuel, rfl⟩ : ∃ k, fuel = k + 1 := ⟨fuel - 1, by omega⟩
    obtain ⟨he, hes⟩ := List.forall_mem_cons.mp h
    have hlength : (text e.2).length ≤ (member sep text e).length := by simp [member]; omega
    cases es with
    | nil =>
      rw [List.map_singleton, separated] at hfuel ⊢
      have hend : Delimited (close ++ '\x7d' :: rest) :=
        delimited_append hclose (delimited_cons (by simp) rest)
      obtain ⟨raw, hraw, hdoc⟩ := he.value fuel _ (by omega) hend
      refine ⟨[(e.1.toList.map letter, raw)], ?_, ?_⟩
      · rw [members?_member hsep, hraw]
        simp only [Option.bind_some, afterMember?_close hclose]
      · simp only [Raw.entriesOf, string?_map_letter, hdoc]
    | cons e' es =>
      have htext : separated (',' :: gap) ((e :: e' :: es).map (member sep text))
          = member sep text e
            ++ ',' :: (gap ++ separated (',' :: gap) ((e' :: es).map (member sep text))) := by
        simp [separated]
      rw [htext] at hfuel ⊢
      simp only [List.length_append, List.length_cons] at hfuel
      rw [List.append_assoc, List.cons_append, List.append_assoc]
      obtain ⟨raw, hraw, hdoc⟩ := he.value fuel _ (by omega) (delimited_cons (.inr (.inl rfl)) _)
      obtain ⟨raws, hraws, hdocs⟩ := ih nofun hes fuel rest (by omega)
      refine ⟨(e.1.toList.map letter, raw) :: raws, ?_, ?_⟩
      · rw [members?_member hsep, hraw]
        simp only [Option.bind_some, afterMember?_comma, members?_append hgap, hraws, Option.map_some]
      · simp only [Raw.entriesOf, string?_map_letter, hdoc, hdocs]

lemma value?_object (hgap : Blank gap) (fuel : Nat) (text : List Char) :
    value? (fuel + 1) ('\x7b' :: (gap ++ '"' :: text))
      = (members? fuel ('"' :: text)).map fun (raws, left) => (.object raws, left) := by
  rw [value?, skipBlanks_cons rfl]
  simp only [skipBlanks_append hgap, skipBlanks_cons (rfl : isBlank '"' = false)]
  rfl

lemma returns_object (hsep : Blank sep) (hgap : Blank gap) (hclose : Blank close)
    (h : ∀ e ∈ entries, Returns room (text e.2) e.2) :
    Returns (room + 1) (framed gap close '\x7b' '\x7d' (entries.map (member sep text)))
      (.object entries) := by
  cases entries with
  | nil => exact returns_word (fun _ _ => rfl) rfl (by decide) rfl
  | cons e es =>
    refine ⟨⟨'\x7b', _, rfl, rfl, by decide⟩, ?_⟩
    intro fuel rest hfuel hrest
    obtain ⟨more, hmore⟩ := separated_eq_append (',' :: gap) (member sep text e)
      (es.map (member sep text))
    have htext : framed gap close '\x7b' '\x7d' ((e :: es).map (member sep text))
        = '\x7b' :: (gap
          ++ (separated (',' :: gap) ((e :: es).map (member sep text)) ++ (close ++ ['\x7d']))) := by
      simp [framed]
    rw [htext] at hfuel ⊢
    simp only [List.length_append, List.length_cons] at hfuel
    obtain ⟨fuel, rfl⟩ : ∃ k, fuel = k + 1 := ⟨fuel - 1, by omega⟩
    obtain ⟨raws, hraws, hdocs⟩ := members?_separated hsep hgap hclose (List.cons_ne_nil e es) h fuel
      rest (by omega)
    refine ⟨.object raws, ?_, by rw [Raw.document, hdocs]; rfl⟩
    obtain ⟨tail, hfirst⟩ : ∃ tail,
        separated (',' :: gap) ((e :: es).map (member sep text)) = '"' :: tail := by
      rw [List.map_cons, hmore, member, quoted]
      exact ⟨_, rfl⟩
    rw [hfirst, List.cons_append] at hraws
    simp only [hfirst, List.cons_append, List.append_assoc, List.nil_append]
    rw [value?_object hgap, hraws]
    rfl

end Layout

section Compact

lemma compactItems_eq_map (items : List Document) : compactItems items = items.map compact := by
  induction items with
  | nil => rfl
  | cons d items ih => rw [compactItems, List.map_cons, ih]

lemma compactEntries_eq_map (entries : List (String × Document)) :
    compactEntries entries = entries.map (member [] compact) := by
  induction entries with
  | nil => rfl
  | cons e entries ih =>
    rw [compactEntries, List.map_cons, ih]
    rfl

lemma compact_array (items : List Document) :
    compact (.array items) = framed [] [] '[' ']' (items.map compact) := by
  rw [compact, compactItems_eq_map]
  cases items <;> simp [framed, separated]

lemma compact_object (entries : List (String × Document)) :
    compact (.object entries) = framed [] [] '\x7b' '\x7d' (entries.map (member [] compact)) := by
  rw [compact, compactEntries_eq_map]
  cases entries <;> simp [framed, separated]

lemma Legible.returns {d : Document} (h : Legible room d) : Returns room (compact d) d := by
  induction h with
  | null => exact returns_word (fun _ _ => rfl) rfl (by decide) rfl
  | @boolean _ b => cases b <;> exact returns_word (fun _ _ => rfl) rfl (by decide) rfl
  | integer hlow hhigh => exact returns_integer hlow hhigh
  | float hfinite hx => exact returns_float hfinite hx
  | string => exact returns_string _
  | array _ ih =>
    rw [compact_array]
    exact returns_array blank_nil blank_nil ih
  | object _ ih =>
    rw [compact_object]
    exact returns_object blank_nil blank_nil blank_nil ih

end Compact

section Spread

lemma spreadItems_eq_map (depth : Nat) (items : List Document) :
    spreadItems depth items = items.map (spread depth) := by
  induction items with
  | nil => rfl
  | cons d items ih => rw [spreadItems, List.map_cons, ih]

lemma spreadEntries_eq_map (depth : Nat) (entries : List (String × Document)) :
    spreadEntries depth entries = entries.map (member [' '] (spread depth)) := by
  induction entries with
  | nil => rfl
  | cons e entries ih =>
    rw [spreadEntries, List.map_cons, ih]
    rfl

lemma block_eq_framed (depth : Nat) (opening closing : Char) (parts : List (List Char)) :
    block depth opening closing parts
      = framed ('\n' :: indent (depth + 1)) ('\n' :: indent depth) opening closing parts := by
  cases parts <;> simp [block, framed]

lemma blank_indent (depth : Nat) : Blank ('\n' :: indent depth) := by
  refine List.forall_mem_cons.mpr ⟨rfl, fun c hc => ?_⟩
  rw [List.eq_of_mem_replicate hc]
  rfl

lemma Legible.returns_spread {d : Document} (h : Legible room d) (depth : Nat) :
    Returns room (spread depth d) d := by
  induction h generalizing depth with
  | array _ ih =>
    rw [spread, block_eq_framed, spreadItems_eq_map]
    exact returns_array (blank_indent _) (blank_indent _) fun d hd => ih d hd _
  | object _ ih =>
    rw [spread, block_eq_framed, spreadEntries_eq_map]
    have hspace : Blank [' '] := List.forall_mem_singleton.mpr rfl
    exact returns_object hspace (blank_indent _) (blank_indent _) fun e he => ih e he _
  | null => exact Legible.null.returns
  | boolean => exact Legible.boolean.returns
  | integer hlow hhigh => exact (Legible.integer hlow hhigh).returns
  | float hfinite hx => exact (Legible.float hfinite hx).returns
  | string => exact Legible.string.returns

end Spread

lemma document?_of_returns {text : List Char} {d : Document} (h : Returns depthLimit text d) :
    document? (String.ofList text) = some d := by
  obtain ⟨raw, hraw, hdoc⟩ := h.value (2 * text.length + 1) [] (by omega) delimited_nil
  rw [List.append_nil] at hraw
  have hparse : parse? (String.ofList text) = some raw := by
    rw [parse?, String.toList_ofList, hraw]
    rfl
  rw [document?, hparse, Option.map_some, hdoc]

lemma document?_print {d : Document} (h : Legible depthLimit d) : document? (print d) = some d :=
  document?_of_returns h.returns

lemma document?_pretty {d : Document} (h : Legible depthLimit d) : document? (pretty d) = some d :=
  document?_of_returns (h.returns_spread 0)

lemma read_of_mem {α : Type} {read : Document → Option α} {d : Document} {a : α}
    (h : Legible depthLimit d) (hread : read d = some a) :
    ∀ text ∈ [print d, pretty d], (document? text).bind read = some a := by
  intro text htext
  rcases List.mem_pair.mp htext with rfl | rfl
  · rw [document?_print h, Option.bind_some, hread]
  · rw [document?_pretty h, Option.bind_some, hread]

end Conform.Json
