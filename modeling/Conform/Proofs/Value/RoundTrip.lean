import Conform.Input
import Conform.Proofs.Json.RoundTrip
import Conform.Proofs.Value.Parts

/-! Values written as JSON and read back. In a map no name stands twice, at any depth: that holds of
whatever is read, and under it the value that comes back is the one that was written, with the kind
of every leaf, the items of every array and the entries of every map in their order. -/

namespace Conform

namespace Value

section Reading

variable {v : Value} {items : List Value} {entries : List (String × Value)}

lemma documents_eq_map : documents items = items.map document := by
  induction items with
  | nil => rfl
  | cons v items ih => rw [documents, List.map_cons, ih]

lemma documentsOf_eq_map : documentsOf entries = entries.map fun e => (e.1, e.2.document) := by
  induction entries with
  | nil => rfl
  | cons e entries ih => rw [documentsOf, List.map_cons, ih]

lemma ofDocuments?_documents (h : ∀ v ∈ items, ofDocument? v.document = some v) :
    ofDocuments? (documents items) = some items := by
  induction items with
  | nil => rfl
  | cons v items ih =>
    obtain ⟨hv, hitems⟩ := List.forall_mem_cons.mp h
    rw [documents, ofDocuments?, hv, ih hitems]

lemma ofFields?_documentsOf (h : ∀ e ∈ entries, ofDocument? e.2.document = some e.2) :
    ofFields? (documentsOf entries) = some entries := by
  induction entries with
  | nil => rfl
  | cons e entries ih =>
    obtain ⟨he, hentries⟩ := List.forall_mem_cons.mp h
    rw [documentsOf, ofFields?, he, ih hentries]

lemma ofDocument?_document (h : v.NamesDistinct) : ofDocument? v.document = some v := by
  induction v using nested_induction with
  | null => rfl
  | boolean b => rfl
  | integer n => rw [document, ofDocument?, Decimal.int64?_toInt]
  | float x => rfl
  | string s => rfl
  | array items ih =>
    have hitems : ∀ v ∈ items, ofDocument? v.document = some v := fun v hv =>
      ih v hv (namesDistinct_array_iff.mp h v hv)
    rw [document, ofDocument?, ofDocuments?_documents hitems, Option.map_some]
  | map entries ih =>
    obtain ⟨hnodup, hvalues⟩ := namesDistinct_map_iff.mp h
    have hentries : ∀ e ∈ entries, ofDocument? e.2.document = some e.2 := fun e he =>
      ih e he (hvalues e he)
    rw [document, ofDocument?, ofFields?_documentsOf hentries, Option.map_some, ofEntries,
      Entries.ofList_of_nodup hnodup]

lemma legible_document {room : Nat} (hdepth : v.depth ≤ room)
    (hfloats : ∀ x, float x ∈ v.parts → x.isFinite = true ∧ Json.ReadsBack x) :
    Json.Legible room v.document := by
  induction v using nested_induction generalizing room with
  | null => exact .null
  | boolean b => exact .boolean
  | integer n =>
    have hlow : -9223372036854775808 ≤ n.toInt := n.le_toInt
    have hhigh : n.toInt < 9223372036854775808 := n.toInt_lt
    exact .integer hlow (by omega)
  | float x =>
    obtain ⟨hfinite, hx⟩ := hfloats x List.mem_cons_self
    exact .float hfinite hx
  | string s => exact .string
  | array items ih =>
    rw [depth] at hdepth
    obtain ⟨room, rfl⟩ : ∃ k, room = k + 1 := ⟨room - 1, by omega⟩
    rw [document, documents_eq_map]
    refine .array (List.forall_mem_map.mpr fun v hv => ?_)
    have hv' : v.depth ≤ depthOf items := depth_le_of_mem hv
    exact ih v hv (by omega) fun x hx => hfloats x (mem_parts_array.mpr (.inr ⟨v, hv, hx⟩))
  | map entries ih =>
    rw [depth] at hdepth
    obtain ⟨room, rfl⟩ : ∃ k, room = k + 1 := ⟨room - 1, by omega⟩
    rw [document, documentsOf_eq_map]
    refine .object (List.forall_mem_map.mpr fun e he => ?_)
    have he' : e.2.depth ≤ depthIn entries := depth_le_of_entry he
    exact ih e he (by omega) fun x hx => hfloats x (mem_parts_map.mpr (.inr ⟨e, he, hx⟩))

lemma exists_of_mem_ofDocuments? {ds : List Document} (h : ofDocuments? ds = some items)
    (hv : v ∈ items) : ∃ d, ofDocument? d = some v := by
  induction ds generalizing items with
  | nil =>
    cases h
    cases hv
  | cons d ds ih =>
    rw [ofDocuments?] at h
    split at h
    · next w vs hw hvs =>
      cases h
      rcases List.mem_cons.mp hv with rfl | hv
      · exact ⟨d, hw⟩
      · exact ih hvs hv
    · cases h

lemma exists_of_mem_ofFields? {ds : List (String × Document)} (h : ofFields? ds = some entries)
    {e : String × Value} (he : e ∈ entries) : ∃ d, ofDocument? d = some e.2 := by
  induction ds generalizing entries with
  | nil =>
    cases h
    cases he
  | cons d ds ih =>
    obtain ⟨name, d⟩ := d
    rw [ofFields?] at h
    split at h
    · next w es hw hes =>
      cases h
      rcases List.mem_cons.mp he with rfl | he
      · exact ⟨d, hw⟩
      · exact ih hes he
    · cases h

lemma ofDocuments?_of_array {d : Document} (h : ofDocument? d = some (array items)) :
    ∃ ds, ofDocuments? ds = some items := by
  cases d with
  | array ds =>
    obtain ⟨read, hread, heq⟩ := Option.map_eq_some_iff.mp h
    cases heq
    exact ⟨ds, hread⟩
  | object es =>
    obtain ⟨read, hread, heq⟩ := Option.map_eq_some_iff.mp h
    cases heq
  | integer n =>
    rw [ofDocument?] at h
    split at h <;> cases h
  | _ => cases h

lemma ofFields?_of_map {d : Document} (h : ofDocument? d = some (map entries)) :
    ∃ ds read, ofFields? ds = some read ∧ entries = Entries.ofList read := by
  cases d with
  | array ds =>
    obtain ⟨read, hread, heq⟩ := Option.map_eq_some_iff.mp h
    cases heq
  | object es =>
    obtain ⟨read, hread, heq⟩ := Option.map_eq_some_iff.mp h
    cases heq
    exact ⟨es, read, hread, rfl⟩
  | integer n =>
    rw [ofDocument?] at h
    split at h <;> cases h
  | _ => cases h

theorem namesDistinct_of_ofDocument? {d : Document} (h : ofDocument? d = some v) :
    v.NamesDistinct := by
  induction v using nested_induction generalizing d with
  | array items ih =>
    obtain ⟨ds, hds⟩ := ofDocuments?_of_array h
    refine namesDistinct_array_iff.mpr fun v hv => ?_
    obtain ⟨d, hd⟩ := exists_of_mem_ofDocuments? hds hv
    exact ih v hv hd
  | map entries ih =>
    obtain ⟨ds, read, hread, rfl⟩ := ofFields?_of_map h
    refine namesDistinct_map_iff.mpr ⟨Entries.nodup_ofList read, fun e he => ?_⟩
    obtain ⟨d, hd⟩ := exists_of_mem_ofFields? hread (Entries.mem_of_mem_ofList he)
    exact ih e he hd
  | _ => exact namesDistinct_of_not_nested rfl nofun

end Reading

section Json

theorem json_text_read_back {v : Value} (hnames : v.NamesDistinct)
    (hdepth : v.depth ≤ Json.depthLimit)
    (hfinite : ∀ x, float x ∈ v.parts → x.isFinite = true)
    (hreads : ∀ x, float x ∈ v.parts → x.isFinite = true → Json.ReadsBack x) :
    (Json.document? (Json.print v.document)).bind ofDocument? = some v ∧
      ∀ entries, v = map entries → ∃ input, Input.ofValue v = .ok input ∧
        input.values.entries = entries ∧ Input.parse (Json.print input.document) = .ok input := by
  have hlegible : Json.Legible Json.depthLimit v.document :=
    legible_document hdepth fun x hx => ⟨hfinite x hx, hreads x hx (hfinite x hx)⟩
  have hread : (Json.document? (Json.print v.document)).bind ofDocument? = some v := by
    rw [Json.document?_print hlegible, Option.bind_some, ofDocument?_document hnames]
  refine ⟨hread, ?_⟩
  rintro entries rfl
  have hnodup : (Entries.keys entries).Nodup := hnames entries List.mem_cons_self
  have hentries : Entries.ofList entries = entries := Entries.ofList_of_nodup hnodup
  refine ⟨Input.ofEntries entries, rfl, hentries, ?_⟩
  have hvalue : (Input.ofEntries entries).toValue = map entries := congrArg map hentries
  rw [Input.parse, Input.document, hvalue, hread]
  rfl

theorem json_text_read_back_nested :
    let v := map [("z", array [float 0.1, float (-0.0), integer (-1)]),
      ("a", map [("\"\x01", string "\n\\é"), ("b", float 5e-324), ("c", null)])]
    (Json.document? (Json.print v.document)).bind ofDocument? = some v ∧
      ∃ input, Input.ofValue v = .ok input ∧ input.values.keys = ["z", "a"] ∧
        Input.parse (Json.print input.document) = .ok input := by
  intro v
  have hnames : v.NamesDistinct := by
    intro entries he
    have hmaps : entries ∈ v.parts.filterMap map? := List.mem_filterMap.mpr ⟨_, he, rfl⟩
    have hall : ∀ entries ∈ v.parts.filterMap map?, (Entries.keys entries).Nodup := by
      simp [v, parts, partsIn, partsOf, map?, Entries.keys]
    exact hall entries hmaps
  have hfloats : ∀ x, float x ∈ v.parts → x = 0.1 ∨ x = -0.0 ∨ x = 5e-324 := by
    intro x hx
    simpa [v, parts, partsIn, partsOf] using hx
  have hfinite : ∀ x, float x ∈ v.parts → x.isFinite = true := by
    intro x hx
    rcases hfloats x hx with rfl | rfl | rfl <;> decide +kernel
  have hreads : ∀ x, float x ∈ v.parts → x.isFinite = true → Json.ReadsBack x := by
    intro x hx _
    apply Json.readsBack_of_eq
    rcases hfloats x hx with rfl | rfl | rfl <;> decide +kernel
  obtain ⟨hread, hinput⟩ := json_text_read_back hnames (by decide) hfinite hreads
  obtain ⟨input, hof, hentries, hparse⟩ := hinput _ rfl
  refine ⟨hread, input, hof, ?_, hparse⟩
  rw [OrderedMap.keys, hentries]
  rfl

end Json

end Value

end Conform
