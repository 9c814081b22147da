import Conform.Json.Tree
import Conform.Proofs.Decimal.Numeral
import Conform.Proofs.OrderedMap
import Conform.Value.Codec
import Mathlib.Data.List.Forall2

/-! What a JSON text denotes, said without a reader: a number that a signed word holds is an integer
and any other one a float, and an object has each of its names where it stands first, with what
stands last under it. A reader that goes through the parts of a text reads just that, as deep as
there is room. One such reader tries the kinds of value on a document; another builds a tree and
takes its value. -/

namespace Conform

namespace Value

def fits? : Document → ValueKind → Option Value
  | .null, .null => some null
  | .boolean b, .boolean => some (boolean b)
  | .integer n, .integer => (Decimal.int64? n).map integer
  | .integer n, .float => some (float (Float.ofInt n))
  | .float x, .float => some (float x)
  | .string s, .string => some (string s)
  | .array items, .array => (ofDocuments? items).map array
  | .object entries, .map => (ofFields? entries).map ofEntries
  | _, _ => none

lemma ofDocument?_eq_findSome? (d : Document) :
    ofDocument? d = ValueKind.all.findSome? (fits? d) := by
  cases d with
  | integer n =>
    rw [ofDocument?]
    cases hword : Decimal.int64? n <;> simp [ValueKind.all, List.findSome?, fits?, hword]
  | array items =>
    rw [ofDocument?]
    cases hitems : ofDocuments? items <;> simp [ValueKind.all, List.findSome?, fits?, hitems]
  | object entries =>
    rw [ofDocument?]
    cases hentries : ofFields? entries <;> simp [ValueKind.all, List.findSome?, fits?, hentries]
  | _ => rfl

end Value

namespace Json

section Lists

variable {α β : Type} {as : List α} {bs : List β}

lemma mapM_eq_some_iff {f : α → Option β} :
    as.mapM f = some bs ↔ List.Forall₂ (fun a b => f a = some b) as bs := by
  induction as generalizing bs with
  | nil => cases bs <;> simp
  | cons a as ih =>
    rw [List.mapM_cons, List.forall₂_cons_left_iff]
    simp only [← ih, Option.bind_eq_bind, Option.bind_eq_some_iff, Option.pure_def,
      Option.some.injEq, exists_and_left, eq_comm (a := bs)]

lemma forall₂_congr_mem {R S : α → β → Prop} (h : ∀ a ∈ as, ∀ b, R a b ↔ S a b) :
    List.Forall₂ R as bs ↔ List.Forall₂ S as bs := by
  induction as generalizing bs with
  | nil => simp only [List.forall₂_nil_left_iff]
  | cons a as ih =>
    obtain ⟨ha, has⟩ := List.forall_mem_cons.mp h
    simp only [List.forall₂_cons_left_iff, ha, ih has]

lemma forall₂_and_iff {R S : α → β → Prop} : List.Forall₂ (fun a b => R a b ∧ S a b) as bs ↔
    List.Forall₂ R as bs ∧ List.Forall₂ S as bs := by
  constructor
  · exact fun h => ⟨h.imp fun _ _ => And.left, h.imp fun _ _ => And.right⟩
  · rintro ⟨hr, hs⟩
    exact List.Forall₂.mp (fun _ _ => And.intro) hr hs

end Lists

namespace Raw

mutual

def depth : Raw → Nat
  | array items => depthOf items + 1
  | object members => depthIn members + 1
  | _ => 0

def depthOf : List Raw → Nat
  | [] => 0
  | r :: rs => max (depth r) (depthOf rs)

def depthIn : List (List Letter × Raw) → Nat
  | [] => 0
  | (_, r) :: es => max (depth r) (depthIn es)

end

inductive Denotes : Raw → Value → Prop
  | null : Denotes null .null
  | boolean {b} : Denotes (boolean b) (.boolean b)
  | integer {n : Numeral} {m : Int64} : n.number? = some (.integer m.toInt) →
      Denotes (number n) (.integer m)
  | wide {n : Numeral} {m : Int} : n.number? = some (.integer m) → (∀ k : Int64, k.toInt ≠ m) →
      Denotes (number n) (.float (Float.ofInt m))
  | float {n : Numeral} {x : Float} : n.number? = some (.float x) → Denotes (number n) (.float x)
  | string {letters s} : string? letters = some s → Denotes (string letters) (.string s)
  | array {items vs} : List.Forall₂ Denotes items vs → Denotes (array items) (.array vs)
  | object {members} {spelled entries : Entries Value} :
      List.Forall₂ (fun letters name => string? letters = some name) (members.map Prod.fst)
        (Entries.keys spelled) →
      List.Forall₂ Denotes (members.map Prod.snd) (spelled.map Prod.snd) →
      -- a name that comes again keeps its first place, under it stands what came last
      Entries.keys entries = (Entries.keys spelled).eraseDups →
      (∀ key, Entries.get? entries key = Entries.get? spelled.reverse key) →
      Denotes (object members) (.map entries)

variable {room : Nat} {v : Value} {items : List Raw} {members : List (List Letter × Raw)}

lemma depthOf_le_iff : depthOf items ≤ room ↔ ∀ r ∈ items, r.depth ≤ room := by
  induction items with
  | nil => simp [depthOf]
  | cons r items ih => rw [depthOf, Nat.max_le, ih, List.forall_mem_cons]

lemma depthIn_le_iff : depthIn members ≤ room ↔ ∀ e ∈ members, e.2.depth ≤ room := by
  induction members with
  | nil => simp [depthIn]
  | cons e members ih => rw [depthIn, Nat.max_le, ih, List.forall_mem_cons]

theorem nested_induction {P : Raw → Prop} (null : P null) (boolean : ∀ b, P (boolean b))
    (number : ∀ n, P (number n)) (string : ∀ letters, P (string letters))
    (array : ∀ items, (∀ r ∈ items, P r) → P (array items))
    (object : ∀ members, (∀ e ∈ members, P e.2) → P (object members)) (raw : Raw) : P raw := by
  refine @Raw.rec P (fun items => ∀ r ∈ items, P r) (fun members => ∀ e ∈ members, P e.2)
    (fun e => P e.2) null boolean number string array object ?_ ?_ ?_ ?_ ?_ raw
  · exact nofun
  · exact fun r rs hr hrs => List.forall_mem_cons.mpr ⟨hr, hrs⟩
  · exact nofun
  · exact fun e es he hes => List.forall_mem_cons.mpr ⟨he, hes⟩
  · exact fun letters r hr => hr

lemma denotes_null_iff : null.Denotes v ↔ some Value.null = some v := by
  constructor
  · rintro ⟨⟩
    rfl
  · rintro ⟨⟩
    exact .null

lemma denotes_boolean_iff {b : Bool} : (boolean b).Denotes v ↔ some (Value.boolean b) = some v := by
  constructor
  · rintro ⟨⟩
    rfl
  · rintro ⟨⟩
    exact .boolean

lemma denotes_number_iff {n : Numeral} :
    (number n).Denotes v ↔ n.number?.map Number.value = some v := by
  constructor
  · intro h
    cases h with
    | integer hn => rw [hn, Option.map_some, Number.value, Decimal.int64?_toInt]
    | @wide _ m hn hwide =>
      have hnone : Decimal.int64? m = none := Option.eq_none_iff_forall_ne_some.mpr fun k hk =>
        hwide k (Decimal.int64?_eq_some_iff.mp hk)
      rw [hn, Option.map_some, Number.value, hnone]
    | float hn => rw [hn, Option.map_some, Number.value]
  · intro h
    obtain ⟨m, hm, rfl⟩ := Option.map_eq_some_iff.mp h
    cases m with
    | float x => exact .float hm
    | integer m =>
      rw [Number.value]
      cases hword : Decimal.int64? m with
      | some k =>
        obtain rfl := Decimal.int64?_eq_some_iff.mp hword
        exact .integer hm
      | none =>
        refine .wide hm fun k hk => ?_
        rw [Decimal.int64?_eq_some_iff.mpr hk] at hword
        cases hword

lemma denotes_string_iff {letters : List Letter} :
    (string letters).Denotes v ↔ (string? letters).map Value.string = some v := by
  rw [Option.map_eq_some_iff]
  constructor
  · intro h
    cases h with
    | string hs => exact ⟨_, hs, rfl⟩
  · rintro ⟨s, hs, rfl⟩
    exact .string hs

lemma denotes_array_iff :
    (array items).Denotes v ↔ ∃ vs, List.Forall₂ Denotes items vs ∧ Value.array vs = v := by
  constructor
  · intro h
    cases h with
    | array hitems => exact ⟨_, hitems, rfl⟩
  · rintro ⟨vs, hitems, rfl⟩
    exact .array hitems

lemma denotes_object_iff : (object members).Denotes v ↔
    ∃ spelled, List.Forall₂ (fun e f => string? e.1 = some f.1 ∧ e.2.Denotes f.2) members spelled ∧
      Value.ofEntries spelled = v := by
  simp only [forall₂_and_iff, Value.ofEntries]
  constructor
  · intro h
    cases h with
    | @object _ spelled entries hnames hcontents hkeys hget =>
      rw [Entries.keys, List.forall₂_map_left_iff, List.forall₂_map_right_iff] at hnames
      rw [List.forall₂_map_left_iff, List.forall₂_map_right_iff] at hcontents
      have hentries : entries = Entries.ofList spelled := Entries.eq_ofList_iff.mpr ⟨hkeys, hget⟩
      exact ⟨spelled, ⟨hnames, hcontents⟩, congrArg Value.map hentries.symm⟩
  · rintro ⟨spelled, ⟨hnames, hcontents⟩, rfl⟩
    obtain ⟨hkeys, hget⟩ := Entries.eq_ofList_iff.mp (rfl : Entries.ofList spelled = _)
    refine .object ?_ ?_ hkeys hget
    · rwa [Entries.keys, List.forall₂_map_left_iff, List.forall₂_map_right_iff]
    · rwa [List.forall₂_map_left_iff, List.forall₂_map_right_iff]

end Raw

section Readers

def member? (read : Raw → Option Value) (e : List Letter × Raw) : Option (String × Value) :=
  (string? e.1).bind fun key => (read e.2).map fun v => (key, v)

/-- A reader that goes through the parts in their order. It reads the whole if it reads every part
and there is room for one more array or object. -/
structure Reader where
  read : Nat → Raw → Option Value
  null (room : Nat) : read room .null = some .null
  boolean (room : Nat) (b : Bool) : read room (.boolean b) = some (.boolean b)
  number (room : Nat) (n : Numeral) : read room (.number n) = n.number?.map Number.value
  string (room : Nat) (letters : List Letter) :
    read room (.string letters) = (string? letters).map .string
  array_zero (items : List Raw) : read 0 (.array items) = none
  array_succ (room : Nat) (items : List Raw) :
    read (room + 1) (.array items) = (items.mapM (read room)).map .array
  object_zero (members : List (List Letter × Raw)) : read 0 (.object members) = none
  object_succ (room : Nat) (members : List (List Letter × Raw)) :
    read (room + 1) (.object members) = (members.mapM (member? (read room))).map Value.ofEntries

variable {room : Nat} {raw : Raw} {v : Value} {read : Raw → Option Value}

lemma member?_eq_some_iff {e : List Letter × Raw} {f : String × Value} :
    member? read e = some f ↔ string? e.1 = some f.1 ∧ read e.2 = some f.2 := by
  obtain ⟨key, v⟩ := f
  simp [member?, Option.bind_eq_some_iff]

namespace Reader

lemma read_array_iff (r : Reader) {items : List Raw}
    (ih : ∀ raw ∈ items, ∀ v, r.read room raw = some v ↔ raw.depth ≤ room ∧ raw.Denotes v) :
    r.read (room + 1) (.array items) = some v ↔
      Raw.depthOf items ≤ room ∧ (Raw.array items).Denotes v := by
  rw [r.array_succ, Option.map_eq_some_iff, Raw.denotes_array_iff, Raw.depthOf_le_iff]
  simp only [mapM_eq_some_iff, forall₂_congr_mem ih, List.forall₂_and_left, and_assoc,
    exists_and_left]

lemma read_object_iff (r : Reader) {members : List (List Letter × Raw)}
    (ih : ∀ e ∈ members, ∀ v, r.read room e.2 = some v ↔ e.2.depth ≤ room ∧ e.2.Denotes v) :
    r.read (room + 1) (.object members) = some v ↔
      Raw.depthIn members ≤ room ∧ (Raw.object members).Denotes v := by
  have hmember : ∀ e ∈ members, ∀ f, member? (r.read room) e = some f ↔
      e.2.depth ≤ room ∧ string? e.1 = some f.1 ∧ e.2.Denotes f.2 := by
    intro e he f
    rw [member?_eq_some_iff, ih e he, and_left_comm]
  rw [r.object_succ, Option.map_eq_some_iff, Raw.denotes_object_iff, Raw.depthIn_le_iff]
  simp only [mapM_eq_some_iff, forall₂_congr_mem hmember, List.forall₂_and_left, and_assoc,
    exists_and_left]

theorem read_eq_some_iff (r : Reader) :
    r.read room raw = some v ↔ raw.depth ≤ room ∧ raw.Denotes v := by
  induction raw using Raw.nested_induction generalizing room v with
  | null =>
    rw [r.null, Raw.denotes_null_iff]
    exact (and_iff_right (Nat.zero_le room)).symm
  | boolean b =>
    rw [r.boolean, Raw.denotes_boolean_iff]
    exact (and_iff_right (Nat.zero_le room)).symm
  | number n =>
    rw [r.number, Raw.denotes_number_iff]
    exact (and_iff_right (Nat.zero_le room)).symm
  | string letters =>
    rw [r.string, Raw.denotes_string_iff]
    exact (and_iff_right (Nat.zero_le room)).symm
  | array items ih =>
    rw [Raw.depth]
    cases room with
    | zero => simp [r.array_zero]
    | succ room =>
      rw [Nat.add_le_add_iff_right]
      exact r.read_array_iff fun raw hraw v => ih raw hraw
  | object members ih =>
    rw [Raw.depth]
    cases room with
    | zero => simp [r.object_zero]
    | succ room =>
      rw [Nat.add_le_add_iff_right]
      exact r.read_object_iff fun e he v => ih e he

end Reader

end Readers

section Documents

open Raw Value

lemma ofDocuments?_eq_mapM (room : Nat) (items : List Raw) :
    ofDocuments? (documents room items) = items.mapM fun r => ofDocument? (r.document room) := by
  induction items with
  | nil => rfl
  | cons r items ih =>
    rw [Raw.documents, ofDocuments?, ih, List.mapM_cons]
    cases ofDocument? (r.document room) with
    | none => rfl
    | some v => cases items.mapM fun r => ofDocument? (r.document room) <;> rfl

lemma ofFields?_eq_mapM (room : Nat) (members : List (List Letter × Raw)) :
    (entriesOf room members).bind ofFields?
      = members.mapM (member? fun r => ofDocument? (r.document room)) := by
  induction members with
  | nil => rfl
  | cons e members ih =>
    obtain ⟨letters, r⟩ := e
    rw [List.mapM_cons, ← ih, entriesOf, member?]
    cases string? letters with
    | none => rfl
    | some key =>
      cases entriesOf room members with
      | none => cases ofDocument? (r.document room) <;> rfl
      | some ds =>
        simp only [Option.bind_some, ofFields?]
        cases ofDocument? (r.document room) with
        | none => rfl
        | some v => cases ofFields? ds <;> rfl

def Reader.byDocument : Reader where
  read room raw := ofDocument? (raw.document room)
  null _ := rfl
  boolean _ _ := rfl
  number room n := by
    rw [Raw.document]
    cases n.number? with
    | none => rfl
    | some m =>
      cases m with
      | float x => rfl
      | integer m =>
        rw [Option.map_some, Option.map_some, Option.getD_some, Number.document, Number.value,
          ofDocument?]
        cases Decimal.int64? m <;> rfl
  string room letters := by
    rw [Raw.document]
    cases string? letters <;> rfl
  array_zero _ := rfl
  array_succ room items := by rw [Raw.document, ofDocument?, ofDocuments?_eq_mapM]
  object_zero _ := rfl
  object_succ room members := by
    rw [Raw.document, ← ofFields?_eq_mapM]
    cases entriesOf room members <;> rfl

end Documents

section Trees

open Raw Json.Tree

lemma trees?_eq_mapM (room : Nat) (items : List Raw) :
    (trees? room items).map values = items.mapM fun r => (r.tree? room).map value := by
  induction items with
  | nil => rfl
  | cons r items ih =>
    rw [trees?, List.mapM_cons, ← ih]
    cases r.tree? room with
    | none => rfl
    | some t => cases trees? room items <;> rfl

lemma valuesOf_eq_mapValues (entries : Entries Tree) :
    valuesOf entries = Entries.mapValues (fun _ => value) entries := by
  induction entries with
  | nil => rfl
  | cons e entries ih =>
    rw [valuesOf, ih]
    rfl

lemma valuesOf_insert (entries : Entries Tree) (key : String) (t : Tree) :
    valuesOf (Entries.insert entries key t) = Entries.insert (valuesOf entries) key t.value := by
  rw [valuesOf_eq_mapValues, valuesOf_eq_mapValues, Entries.mapValues_insert]

lemma treesOf?_eq_mapM (room : Nat) (acc : Entries Tree) (members : List (List Letter × Raw)) :
    (treesOf? room acc members).map valuesOf
      = (members.mapM (member? fun r => (r.tree? room).map value)).map
          (Entries.merge (valuesOf acc)) := by
  induction members generalizing acc with
  | nil => rfl
  | cons e members ih =>
    obtain ⟨letters, r⟩ := e
    rw [treesOf?, List.mapM_cons, member?]
    cases string? letters with
    | none => rfl
    | some key =>
      cases r.tree? room with
      | none => rfl
      | some t =>
        simp only [ih, valuesOf_insert]
        cases members.mapM (member? fun r => (r.tree? room).map value) <;> rfl

def Reader.byTree : Reader where
  read room raw := (raw.tree? room).map value
  null _ := rfl
  boolean _ _ := rfl
  number room n := by
    rw [Raw.tree?, Option.map_map]
    rfl
  string room letters := by
    rw [Raw.tree?, Option.map_map]
    rfl
  array_zero _ := rfl
  array_succ room items := by
    rw [Raw.tree?, ← trees?_eq_mapM, Option.map_map, Option.map_map]
    rfl
  object_zero _ := rfl
  object_succ room members := by
    have htrees := congrArg (Option.map Value.map) (treesOf?_eq_mapM room [] members)
    rw [Option.map_map, Option.map_map] at htrees
    rw [Raw.tree?, Option.map_map]
    exact htrees

end Trees

lemma document?_eq_read (text : String) : (document? text).bind Value.ofDocument?
    = (parse? text).bind (Reader.byDocument.read depthLimit) := by
  rw [document?]
  cases parse? text <;> rfl

lemma tree?_eq_read (text : String) :
    (tree? text).map Tree.value = (parse? text).bind (Reader.byTree.read depthLimit) := by
  rw [tree?]
  cases parse? text <;> rfl

theorem document_tree_agree (text : String) :
    (document? text).bind Value.ofDocument? = (tree? text).map Tree.value ∧
      (∀ d, Value.ofDocument? d = ValueKind.all.findSome? (Value.fits? d)) ∧
      ∀ v, (document? text).bind Value.ofDocument? = some v ↔
        ∃ raw, parse? text = some raw ∧ raw.depth ≤ depthLimit ∧ raw.Denotes v := by
  have hread (r : Reader) (v : Value) : (parse? text).bind (r.read depthLimit) = some v ↔
      ∃ raw, parse? text = some raw ∧ raw.depth ≤ depthLimit ∧ raw.Denotes v := by
    simp only [Option.bind_eq_some_iff, r.read_eq_some_iff]
  rw [document?_eq_read, tree?_eq_read]
  refine ⟨Option.ext fun v => ?_, Value.ofDocument?_eq_findSome?, hread Reader.byDocument⟩
  rw [hread Reader.byDocument, hread Reader.byTree]

end Json

end Conform
