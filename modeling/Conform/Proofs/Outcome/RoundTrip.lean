import Conform.Outcome.Codec
import Conform.Proofs.Document.Record
import Conform.Proofs.Json.RoundTrip
import Conform.Schema.Error.Codec

/-! Outcomes, failures, checks and schema errors written as JSON and read back. The name of a check is
read whether its kind stands in front of it or behind it. -/

namespace Conform

open Json (Legible)

variable {room : Nat}

namespace Check

def fields : Check → List (String × Option Document)
  | keyPresence => [("kind", some (.string "key_presence")), ("name", none)]
  | quantifier => [("kind", some (.string "quantifier")), ("name", none)]
  | type name => [("kind", some (.string "type")), ("name", some (.string name))]
  | predicate name => [("kind", some (.string "predicate")), ("name", some (.string name))]

lemma document_eq (c : Check) : c.document = .object (Document.written c.fields) := by
  cases c <;> rfl

lemma fields_nodup (c : Check) : (c.fields.map Prod.fst).Nodup := by
  have hnames : c.fields.map Prod.fst = ["kind", "name"] := by cases c <;> rfl
  rw [hnames]
  decide

lemma ofDocument?_perm (format : Document.Format) {c : Check} {entries : List (String × Document)}
    (h : entries.Perm (Document.written c.fields)) :
    ofDocument? format (.object entries) = some c := by
  have hread : ∀ f ∈ c.fields, Document.unique? entries f.1 = some f.2 := by
    intro f hf
    rw [Document.unique?_perm h, Document.unique?_written c.fields_nodup hf]
  cases c <;>
  · simp only [fields, List.forall_mem_cons] at hread
    obtain ⟨hkind, hname, -⟩ := hread
    rw [ofDocument?, hkind]
    simp only [Option.bind_eq_bind, Option.bind_some, hname]
    rfl

lemma ofDocument?_document (format : Document.Format) (c : Check) :
    ofDocument? format c.document = some c := by
  rw [document_eq]
  exact ofDocument?_perm format (List.Perm.refl _)

lemma legible_perm {c : Check} {entries : List (String × Document)}
    (h : entries.Perm (Document.written c.fields)) : Legible (room + 1) (.object entries) := by
  apply Legible.object
  intro e he
  have hfield : (e.1, some e.2) ∈ c.fields := Document.mem_written.mp (h.mem_iff.mp he)
  have htexts : ∀ f ∈ c.fields, ∀ d ∈ f.2, Legible room d := by
    cases c <;> simp [fields, Legible.string]
  exact htexts _ hfield e.2 rfl

lemma legible_document (c : Check) : Legible (room + 1) c.document := by
  rw [document_eq]
  exact legible_perm (List.Perm.refl _)

end Check

namespace Failure

lemma ofDocument?_document (format : Document.Format) (f : Failure) :
    ofDocument? format f.document = some f := by
  have hfields : f.document.fields? format ["key", "check", "message"]
      = some [some (.string f.key), some f.check.document, some (.string f.message)] :=
    Document.fields?_object format rfl (by decide)
  rw [ofDocument?, hfields]
  simp only [Option.bind_eq_bind, Option.bind_some, Document.required?, Document.string?,
    Check.ofDocument?_document]

lemma legible_document (f : Failure) : Legible (room + 2) f.document := by
  apply Legible.object
  simp only [List.forall_mem_cons]
  exact ⟨.string, f.check.legible_document, .string, nofun⟩

end Failure

namespace Outcome

lemma ofDocument?_document (format : Document.Format) (o : Outcome) :
    ofDocument? format o.document = some o := by
  have hfields : o.document.fields? format ["successful", "messages", "failures"]
      = some [some (.boolean o.successful),
        some (.object (o.messages.entries.map fun e => (e.1, .array (e.2.map .string)))),
        some (.array (o.failures.map Failure.document))] :=
    Document.fields?_object format rfl (by decide)
  have hmessages : Document.map? (Document.list? Document.string?)
      (.object (o.messages.entries.map fun e => (e.1, .array (e.2.map .string))))
        = some o.messages :=
    Document.map?_entries (fun texts : List String => .array (texts.map .string)) fun _ _ =>
      Document.list?_map fun _ _ => rfl
  have hfailures : Document.list? (Failure.ofDocument? format)
      (.array (o.failures.map Failure.document)) = some o.failures :=
    Document.list?_map fun f _ => f.ofDocument?_document format
  rw [ofDocument?, hfields]
  simp only [Option.bind_eq_bind, Option.bind_some, Document.required?, Document.boolean?,
    hmessages, hfailures]

lemma legible_document (o : Outcome) : Legible (room + 4) o.document := by
  have hmessages : Legible (room + 3)
      (.object (o.messages.entries.map fun e => (e.1, .array (e.2.map .string)))) := by
    apply Legible.object
    refine List.forall_mem_map.mpr fun e _ => .array ?_
    exact List.forall_mem_map.mpr fun _ _ => .string
  have hfailures : Legible (room + 3) (.array (o.failures.map Failure.document)) := by
    apply Legible.array
    exact List.forall_mem_map.mpr fun f _ => f.legible_document
  apply Legible.object
  simp only [List.forall_mem_cons]
  exact ⟨.boolean, hmessages, hfailures, nofun⟩

end Outcome

namespace SchemaError

def counts : SchemaError → List Nat
  | arityMismatch _ _ expected got => [expected, got]
  | _ => []

lemma fields_nodup (e : SchemaError) : (e.fields.map Prod.fst).Nodup := by
  cases e <;> simp [fields]

lemma count?_integer {n : Nat} (h : n < 18446744073709551616) :
    Document.count? (.integer n) = some n := by
  have hrange : (0 : Int) ≤ n ∧ (n : Int) < 18446744073709551616 := by omega
  rw [Document.count?, if_pos hrange, Int.toNat_natCast]

lemma ofRecord?_arityMismatch {format : Document.Format} {key predicate : String}
    {expected got : Nat} {d first second : Document}
    (hfields : d.fields? format ["key", "predicate", "expected", "got"]
      = some [some (.string key), some (.string predicate), some first, some second])
    (hexpected : Document.count? first = some expected) (hgot : Document.count? second = some got) :
    ofRecord? format "ArityMismatch" d = some (arityMismatch key predicate expected got) := by
  simp only [ofRecord?, hfields, Option.bind_eq_bind, Option.bind_some, Document.required?,
    Document.string?, hexpected, hgot]

lemma ofDocument?_document (format : Document.Format) {e : SchemaError}
    (h : ∀ n ∈ e.counts, n < 18446744073709551616) : ofDocument? format e.document = some e := by
  have hfields : Document.fields? format (e.fields.map Prod.fst) (.object e.fields)
      = some (e.fields.map fun f => some f.2) := Document.fields?_object format rfl e.fields_nodup
  rw [document, ofDocument?]
  cases e with
  | arityMismatch key predicate expected got =>
    have hexpected : Document.count? (.integer expected) = some expected :=
      count?_integer (h _ (by simp [counts]))
    have hgot : Document.count? (.integer got) = some got := count?_integer (h _ (by simp [counts]))
    exact ofRecord?_arityMismatch hfields hexpected hgot
  | _ =>
    simp only [fields, List.map_cons, List.map_nil] at hfields
    simp only [name, fields, ofRecord?, hfields, Option.bind_eq_bind, Option.bind_some,
      Document.required?, Document.string?]

lemma legible_document {e : SchemaError} (h : ∀ n ∈ e.counts, n < 18446744073709551616) :
    Legible (room + 2) e.document := by
  have hfields : Legible (room + 1) (.object e.fields) := by
    apply Legible.object
    cases e with
    | arityMismatch key predicate expected got =>
      have hexpected : expected < 18446744073709551616 := h _ (by simp [counts])
      have hgot : got < 18446744073709551616 := h _ (by simp [counts])
      simp only [fields, List.forall_mem_cons]
      exact ⟨.string, .string, .integer (by omega) (by omega), .integer (by omega) (by omega), nofun⟩
    | _ => simp [fields, Legible.string]
  apply Legible.object
  simp only [List.forall_mem_singleton]
  exact hfields

end SchemaError

theorem outcomes_read_back :
    (∀ o : Outcome, ∀ text ∈ [Json.print o.document, Json.pretty o.document],
      (Json.document? text).bind (Outcome.ofDocument? Json.format) = some o) ∧
    (∀ f : Failure, ∀ text ∈ [Json.print f.document, Json.pretty f.document],
      (Json.document? text).bind (Failure.ofDocument? Json.format) = some f) ∧
    (∀ (c : Check) (own entries : List (String × Document)), c.document = .object own →
      entries.Perm own →
      (∀ text ∈ [Json.print (.object entries), Json.pretty (.object entries)],
        (Json.document? text).bind (Check.ofDocument? Json.format) = some c) ∧
      ∀ text, Json.document? text = some (.object entries) →
        (Json.document? text).bind (Check.ofDocument? Json.format) = some c) ∧
    ∀ e : SchemaError, (∀ n ∈ e.counts, n < 18446744073709551616) →
      ∀ text ∈ [Json.print e.document, Json.pretty e.document],
        (Json.document? text).bind (SchemaError.ofDocument? Json.format) = some e := by
  refine ⟨fun o => ?_, fun f => ?_, fun c own entries hown hperm => ?_, fun e he => ?_⟩
  · exact Json.read_of_mem o.legible_document (o.ofDocument?_document Json.format)
  · exact Json.read_of_mem f.legible_document (f.ofDocument?_document Json.format)
  · obtain rfl : own = Document.written c.fields := by
      rw [Check.document_eq] at hown
      exact (Document.object.inj hown).symm
    have hread : Check.ofDocument? Json.format (.object entries) = some c :=
      Check.ofDocument?_perm Json.format hperm
    refine ⟨Json.read_of_mem (Check.legible_perm hperm) hread, fun text htext => ?_⟩
    rw [htext, Option.bind_some, hread]
  · exact Json.read_of_mem (SchemaError.legible_document he)
      (SchemaError.ofDocument?_document Json.format he)

theorem outcomes_read_back_escaped :
    let f : Failure := ⟨"\"\\", .quantifier, "\x01"⟩
    let o : Outcome := ⟨true, OrderedMap.ofList [("\"\\", ["\x01", ""]), ("", [])],
      [f, ⟨"b", .type "é\n", ""⟩, f]⟩
    let e := SchemaError.arityMismatch "\x7f" "gt?" 2 18446744073709551615
    let entries := [("name", Document.string "\tgt?"), ("kind", .string "predicate")]
    (∀ text ∈ [Json.print o.document, Json.pretty o.document],
      (Json.document? text).bind (Outcome.ofDocument? Json.format) = some o) ∧
    (∀ text ∈ [Json.print f.document, Json.pretty f.document],
      (Json.document? text).bind (Failure.ofDocument? Json.format) = some f) ∧
    (∀ text ∈ [Json.print (.object entries), Json.pretty (.object entries)],
      (Json.document? text).bind (Check.ofDocument? Json.format)
        = some (.predicate "\tgt?")) ∧
    (Json.document? " \x7b\"name\" : \"\\u0009gt\\u003f\", \"kind\":\"predicate\"\x7d").bind
      (Check.ofDocument? Json.format) = some (.predicate "\tgt?") ∧
    ∀ text ∈ [Json.print e.document, Json.pretty e.document],
      (Json.document? text).bind (SchemaError.ofDocument? Json.format) = some e := by
  intro f o e entries
  obtain ⟨houtcome, hfailure, hcheck, herror⟩ := outcomes_read_back
  have hperm : entries.Perm
      [("kind", Document.string "predicate"), ("name", .string "\tgt?")] := List.Perm.swap ..
  obtain ⟨hprinted, hread⟩ := hcheck (.predicate "\tgt?") _ entries rfl hperm
  refine ⟨houtcome o, hfailure f, hprinted, hread _ ?_, herror e ?_⟩
  · simp only [Json.document?, Json.parse?, String.reduceToList]
    rfl
  · intro n hn
    have hcounts : n = 2 ∨ n = 18446744073709551615 := by simpa [e, SchemaError.counts] using hn
    rcases hcounts with rfl | rfl <;> decide

end Conform
