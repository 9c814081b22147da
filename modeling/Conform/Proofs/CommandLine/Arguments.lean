import Conform.CommandLine.Arguments
import Mathlib.Data.List.Basic
import Mathlib.Tactic.Common

/-! The arguments of a check: two paths, then options in any number and order. An option is a word of
its own or a word with its value, which may be any word; so a list is an option list in one way at
most. A walk over the list by index reads the same options and stops where the list does. -/

namespace Conform.CommandLine

inductive OptionKind where
  | json
  | style
  | messages
  deriving DecidableEq

inductive OptionItem where
  | json
  | style (style : InputStyle)
  | messages (path : String)
  deriving DecidableEq

namespace OptionItem

def kind : OptionItem → OptionKind
  | json => .json
  | style _ => .style
  | messages _ => .messages

def words : OptionItem → List String
  | json => ["--json"]
  | style s => ["--style", s.name]
  | messages path => ["--messages", path]

def spelling (items : List OptionItem) : List String := items.flatMap words

def style? : OptionItem → Option InputStyle
  | style s => some s
  | _ => none

def messages? : OptionItem → Option String
  | messages path => some path
  | _ => none

end OptionItem

def CheckOptions.withItem (o : CheckOptions) : OptionItem → CheckOptions
  | .json => { o with json := true }
  | .style style => { o with style }
  | .messages path => { o with messages := some path }

variable {o o' : CheckOptions} {args : List String} {items items' : List OptionItem}
  {schema input : String}

lemma style?_eq_ok_iff {word : String} {s : InputStyle} : style? word = .ok s ↔ word = s.name := by
  constructor
  · intro h
    unfold style? at h
    split at h <;> cases h <;> rfl
  · rintro rfl
    cases s <;> rfl

lemma options_style (o : CheckOptions) (value : String) (args : List String) :
    options o ("--style" :: value :: args)
      = (style? value).bind fun s => options (o.withItem (.style s)) args := by
  rw [options]
  cases style? value <;> rfl

lemma options_unknown {word : String} (hjson : word ≠ "--json") (hstyle : word ≠ "--style")
    (hmessages : word ≠ "--messages") (o : CheckOptions) (args : List String) :
    options o (word :: args) = .error (.unknownOption word) := by
  unfold options
  split <;> simp_all

lemma options_words (o : CheckOptions) (item : OptionItem) (args : List String) :
    options o (item.words ++ args) = options (o.withItem item) args := by
  cases item with
  | json => rfl
  | style s => cases s <;> rfl
  | messages path => rfl

lemma options_spelling (o : CheckOptions) (items : List OptionItem) :
    options o (OptionItem.spelling items) = .ok (items.foldl CheckOptions.withItem o) := by
  induction items generalizing o with
  | nil => rfl
  | cons item items ih =>
    have hcons : OptionItem.spelling (item :: items) = item.words ++ OptionItem.spelling items := rfl
    rw [hcons, options_words, ih, List.foldl_cons]

lemma exists_spelling_of_options (h : options o args = .ok o') :
    ∃ items, args = OptionItem.spelling items := by
  fun_induction options o args with
  | case1 o => exact ⟨[], rfl⟩
  | case2 o args ih =>
    obtain ⟨items, rfl⟩ := ih h
    exact ⟨.json :: items, rfl⟩
  | case3 o value args s hs ih =>
    obtain ⟨items, rfl⟩ := ih h
    obtain rfl := style?_eq_ok_iff.mp hs
    exact ⟨.style s :: items, rfl⟩
  | case4 => cases h
  | case5 o value args ih =>
    obtain ⟨items, rfl⟩ := ih h
    exact ⟨.messages value :: items, rfl⟩
  | case6 | case7 | case8 => cases h

lemma spelling_injective (h : OptionItem.spelling items = OptionItem.spelling items') :
    items = items' := by
  induction items generalizing items' with
  | nil =>
    cases items' with
    | nil => rfl
    | cons item' items' => cases item' <;> simp [OptionItem.spelling, OptionItem.words] at h
  | cons item items ih =>
    cases items' with
    | nil => cases item <;> simp [OptionItem.spelling, OptionItem.words] at h
    | cons item' items' =>
      have hname (s s' : InputStyle) : s.name = s'.name ↔ s = s' := by cases s <;> cases s' <;> decide
      have hsplit : item = item' ∧ OptionItem.spelling items = OptionItem.spelling items' := by
        cases item <;> cases item' <;>
          simp_all [OptionItem.spelling, OptionItem.words]
      rw [hsplit.1, ih hsplit.2]

lemma foldl_withItem (o : CheckOptions) (items : List OptionItem) :
    items.foldl CheckOptions.withItem o =
      { schema := o.schema
        input := o.input
        json := o.json || decide (.json ∈ items)
        style := (items.filterMap OptionItem.style?).getLast?.getD o.style
        messages := (items.filterMap OptionItem.messages?).getLast?.or o.messages } := by
  induction items generalizing o with
  | nil => simp
  | cons item items ih =>
    rw [List.foldl_cons, ih]
    cases item <;>
      simp [CheckOptions.withItem, OptionItem.style?, OptionItem.messages?, List.getLast?_cons]

lemma filterMap_eq_of_kind {α : Type} {f : OptionItem → Option α} {kind : OptionKind}
    (hf : ∀ item, item.kind ≠ kind → f item = none)
    (h : items.filter (·.kind = kind) = items'.filter (·.kind = kind)) :
    items.filterMap f = items'.filterMap f := by
  have hkind (l : List OptionItem) : l.filterMap f = (l.filter (·.kind = kind)).filterMap f := by
    rw [List.filterMap_filter]
    refine List.filterMap_congr fun item _ => ?_
    by_cases hk : item.kind = kind
    · simp [hk]
    · simp [hk, hf item hk]
  rw [hkind items, hkind items', h]

lemma foldl_withItem_congr
    (h : ∀ kind, items.filter (·.kind = kind) = items'.filter (·.kind = kind)) :
    items.foldl CheckOptions.withItem o = items'.foldl CheckOptions.withItem o := by
  have hjson : .json ∈ items ↔ .json ∈ items' := by
    have hmem (l : List OptionItem) : .json ∈ l ↔ .json ∈ l.filter (·.kind = .json) := by
      simp [OptionItem.kind]
    rw [hmem items, hmem items', h]
  have hstyle : items.filterMap OptionItem.style? = items'.filterMap OptionItem.style? := by
    refine filterMap_eq_of_kind (fun item hk => ?_) (h .style)
    cases item with
    | style s => exact absurd rfl hk
    | json | messages path => rfl
  have hmessages : items.filterMap OptionItem.messages? = items'.filterMap OptionItem.messages? := by
    refine filterMap_eq_of_kind (fun item hk => ?_) (h .messages)
    cases item with
    | messages path => exact absurd rfl hk
    | json | style s => rfl
  rw [foldl_withItem, foldl_withItem, hstyle, hmessages, decide_eq_decide.mpr hjson]

lemma parseCheck_spelling (schema input : String) (items : List OptionItem) :
    parseCheck (schema :: input :: OptionItem.spelling items)
      = .ok (items.foldl CheckOptions.withItem { schema, input }) :=
  options_spelling _ items

lemma parseCheck_eq_ok_iff :
    parseCheck args = .ok o ↔ ∃ schema input items,
      args = schema :: input :: OptionItem.spelling items ∧
        items.foldl CheckOptions.withItem { schema, input } = o := by
  constructor
  · intro h
    match args, h with
    | schema :: input :: rest, h =>
      obtain ⟨items, rfl⟩ := exists_spelling_of_options h
      exact ⟨schema, input, items, rfl, Except.ok.inj ((parseCheck_spelling _ _ _).symm.trans h)⟩
  · rintro ⟨schema, input, items, rfl, rfl⟩
    exact parseCheck_spelling schema input items

structure Cursor where
  index : Nat
  options : CheckOptions

namespace Cursor

variable {c c' : Cursor}

def advance (args : List String) (c : Cursor) : Except ArgumentError Cursor :=
  if h : c.index < args.length then
    let word := args[c.index]
    if word = "--json" then .ok ⟨c.index + 1, c.options.withItem .json⟩
    else if word = "--style" ∨ word = "--messages" then
      match args[c.index + 1]? with
      | none => .error (.missingValue word)
      | some value =>
        if word = "--style" then
          match CommandLine.style? value with
          | .ok s => .ok ⟨c.index + 2, c.options.withItem (.style s)⟩
          | .error e => .error e
        else .ok ⟨c.index + 2, c.options.withItem (.messages value)⟩
    else .error (.unknownOption word)
  else .ok c

def run (args : List String) : Nat → Cursor → Except ArgumentError Cursor
  | 0, c => .ok c
  | n + 1, c =>
    match advance args c with
    | .error e => .error e
    | .ok c => run args n c

def rest (args : List String) (c : Cursor) : Except ArgumentError CheckOptions :=
  CommandLine.options c.options (args.drop c.index)

lemma advance_end (h : args.length ≤ c.index) : advance args c = .ok c := by
  rw [advance, dif_neg (Nat.not_lt.mpr h)]

lemma advance_moves (h : c.index < args.length) (hc : advance args c = .ok c') :
    c.index < c'.index ∧ c'.index ≤ args.length := by
  simp only [advance, h, dite_true] at hc
  split at hc
  · cases hc
    exact ⟨Nat.lt_succ_self _, h⟩
  · split at hc
    · split at hc
      · cases hc
      · next value hvalue =>
        have hbound : c.index + 1 < args.length := (List.getElem?_eq_some_iff.mp hvalue).1
        have hmoved : c'.index = c.index + 2 := by
          split at hc
          · split at hc <;> cases hc
            rfl
          · cases hc
            rfl
        omega
    · cases hc

lemma rest_advance (h : c.index < args.length) :
    rest args c = (advance args c).bind (rest args) := by
  have hdrop : args.drop c.index = args[c.index] :: args.drop (c.index + 1) :=
    List.drop_eq_getElem_cons h
  rw [rest, hdrop]
  simp only [advance, h, dite_true]
  by_cases hjson : args[c.index] = "--json"
  · rw [if_pos hjson, hjson]
    rfl
  rw [if_neg hjson]
  by_cases hflag : args[c.index] = "--style" ∨ args[c.index] = "--messages"
  · rw [if_pos hflag]
    cases hvalue : args[c.index + 1]? with
    | none =>
      have hnil : args.drop (c.index + 1) = [] :=
        List.drop_eq_nil_iff.mpr (List.getElem?_eq_none_iff.mp hvalue)
      rw [hnil]
      rcases hflag with hflag | hflag <;> rw [hflag] <;> rfl
    | some value =>
      obtain ⟨hbound, rfl⟩ := List.getElem?_eq_some_iff.mp hvalue
      have hnext : args.drop (c.index + 1) = args[c.index + 1] :: args.drop (c.index + 2) :=
        List.drop_eq_getElem_cons hbound
      rw [hnext]
      rcases hflag with hflag | hflag
      · rw [hflag, options_style]
        simp only [if_true]
        cases CommandLine.style? args[c.index + 1] <;> rfl
      · rw [hflag]
        rfl
  · obtain ⟨hstyle, hmessages⟩ := not_or.mp hflag
    rw [if_neg hflag, options_unknown hjson hstyle hmessages]
    rfl

lemma run_index_le {n : Nat} (hc : c.index ≤ args.length) (h : run args n c = .ok c') :
    c'.index ≤ args.length := by
  induction n generalizing c with
  | zero =>
    cases h
    exact hc
  | succ n ih =>
    rw [run] at h
    cases ha : advance args c with
    | error e => simp [ha] at h
    | ok d =>
      rw [ha] at h
      refine ih ?_ h
      by_cases hlt : c.index < args.length
      · exact (advance_moves hlt ha).2
      · rw [advance_end (Nat.not_lt.mp hlt)] at ha
        cases ha
        exact hc

lemma run_eq_rest {n : Nat} (hc : c.index ≤ args.length) (hn : args.length - c.index ≤ n) :
    run args n c = (rest args c).map fun o => ⟨args.length, o⟩ := by
  induction n generalizing c with
  | zero =>
    have hend : c.index = args.length := by omega
    rw [run, rest, hend, List.drop_length, ← hend]
    rfl
  | succ n ih =>
    rw [run]
    by_cases hlt : c.index < args.length
    · rw [rest_advance hlt]
      cases ha : advance args c with
      | error e => rfl
      | ok d =>
        obtain ⟨hmoved, hbound⟩ := advance_moves hlt ha
        exact ih hbound (by omega)
    · rw [advance_end (Nat.not_lt.mp hlt)]
      exact ih hc (by omega)

end Cursor

theorem arguments_as_items :
    (∀ args o, parseCheck args = .ok o ↔
      ∃ items, args = o.schema :: o.input :: OptionItem.spelling items ∧
        o.json = decide (.json ∈ items) ∧
        o.style = (items.filterMap OptionItem.style?).getLast?.getD .params ∧
        o.messages = (items.filterMap OptionItem.messages?).getLast?) ∧
    (∀ items items', OptionItem.spelling items = OptionItem.spelling items' → items = items') ∧
    (∀ schema input items items',
      (∀ kind, items.filter (·.kind = kind) = items'.filter (·.kind = kind)) →
        parseCheck (schema :: input :: OptionItem.spelling items)
          = parseCheck (schema :: input :: OptionItem.spelling items')) ∧
    ∀ schema input words n,
      let args := schema :: input :: words
      let start : Cursor := ⟨2, { schema, input }⟩
      (∀ c, Cursor.run args n start = .ok c → c.index ≤ args.length) ∧
        (args.length ≤ n →
          Cursor.run args n start = (parseCheck args).map fun o => ⟨args.length, o⟩) := by
  refine ⟨fun args o => ?_, fun items items' h => spelling_injective h, ?_, ?_⟩
  · rw [parseCheck_eq_ok_iff]
    constructor
    · rintro ⟨schema, input, items, rfl, rfl⟩
      refine ⟨items, ?_⟩
      simp [foldl_withItem]
    · rintro ⟨items, hargs, hjson, hstyle, hmessages⟩
      refine ⟨o.schema, o.input, items, hargs, ?_⟩
      rw [foldl_withItem, ← hstyle, Option.or_none, ← hmessages, Bool.false_or, ← hjson]
  · intro schema input items items' h
    rw [parseCheck_spelling, parseCheck_spelling, foldl_withItem_congr h]
  · intro schema input words n args start
    have hstart : start.index ≤ args.length := by simp [start, args]
    refine ⟨fun c hc => Cursor.run_index_le hstart hc, fun hn => ?_⟩
    exact Cursor.run_eq_rest hstart (by omega)

theorem arguments_as_items_flags :
    let items : List OptionItem :=
      [.messages "--messages", .style .json, .json, .messages "--style", .style .params]
    let items' : List OptionItem :=
      [.messages "--messages", .style .json, .json, .style .params, .messages "--style"]
    let o : CheckOptions := ⟨"--json", "--style", true, .params, some "--style"⟩
    parseCheck ["--json", "--style", "--messages", "--messages", "--style", "json", "--json",
        "--messages", "--style", "--style", "params"] = .ok o ∧
      parseCheck ("--json" :: "--style" :: OptionItem.spelling items')
        = parseCheck ("--json" :: "--style" :: OptionItem.spelling items) ∧
      Cursor.run ["--json", "--style", "--messages"] 3 ⟨2, ⟨"--json", "--style", false, .params, none⟩⟩
        = .error (.missingValue "--messages") := by
  intro items items' o
  obtain ⟨haccepted, _, hexchanged, hwalk⟩ := arguments_as_items
  refine ⟨(haccepted _ o).mpr ⟨items, by decide⟩, hexchanged _ _ items' items ?_, ?_⟩
  · rintro (_ | _ | _) <;> decide
  · exact (hwalk "--json" "--style" ["--messages"] 3).2 (by decide)

end Conform.CommandLine
