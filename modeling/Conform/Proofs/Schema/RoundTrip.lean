import Conform.Proofs.Json.Nesting
import Conform.Schema.Declaration.Codec

/-! Declarations written as JSON and read back. Every record is read with the fields that were written
of it, and where one was left out because it was empty, its default is what it was. -/

namespace Conform

lemma Requiredness.ofDocument?_document (format : Document.Format) (r : Requiredness) :
    Vocabulary.ofDocument? format (Vocabulary.document r) = some r :=
  Vocabulary.ofDocument?_document format (by cases r <;> decide) (by decide)

lemma Quantifier.ofDocument?_document (format : Document.Format) (q : Quantifier) :
    Vocabulary.ofDocument? format (Vocabulary.document q) = some q :=
  Vocabulary.ofDocument?_document format (by cases q <;> decide) (by decide)

namespace PredicateDeclaration

variable (d : PredicateDeclaration)

def fields : List (String × Option Document) :=
  [("name", some (.string d.name)),
    ("args", if d.args.isEmpty then none else some (.array (d.args.map Value.document)))]

lemma document_eq : d.document = .object (Document.written d.fields) := by
  obtain ⟨name, args⟩ := d
  cases args <;> rfl

lemma fields?_document (format : Document.Format) :
    d.document.fields? format ["name", "args"] = some (d.fields.map Prod.snd) := by
  rw [document_eq]
  exact Document.fields?_written format rfl (by decide)

variable {d}

lemma ofDocument?_document (format : Document.Format) (h : ∀ v ∈ d.args, v.NamesDistinct) :
    ofDocument? format d.document = some d := by
  have hargs : Document.list? Value.ofDocument? (.array (d.args.map Value.document)) = some d.args :=
    Document.list?_map fun v hv => Value.ofDocument?_document (h v hv)
  simp only [ofDocument?, fields?_document, fields, Option.bind_eq_bind, Option.bind_some,
    List.map_cons, List.map_nil, Document.required?, Document.string?,
    Document.defaulted?_unless_empty hargs]

lemma writable_document (h : ∀ v ∈ d.args, Json.Writable v.document) :
    Json.Writable d.document := by
  have hargs : Json.Writable (.array (d.args.map Value.document)) :=
    Json.writable_array (List.forall_mem_map.mpr h)
  rw [document_eq]
  apply Json.writable_written
  simp only [fields, List.forall_mem_cons]
  exact ⟨Json.writable_some (Json.writable_string d.name),
    Json.writable_unless_empty d.args hargs, nofun⟩

lemma args_written_iff : "args" ∈ d.document.names ↔ d.args ≠ [] := by
  rw [document_eq, Document.mem_names_written]
  cases h : d.args <;> simp [fields, h]

end PredicateDeclaration

namespace KeyDeclaration

variable (d : KeyDeclaration)

def fields : List (String × Option Document) :=
  [("key", some (.string d.key)), ("requiredness", some (Vocabulary.document d.requiredness)),
    ("quantifier", some (Vocabulary.document d.quantifier)), ("type", d.type.map .string),
    ("predicates", if d.predicates.isEmpty then none
      else some (.array (d.predicates.map PredicateDeclaration.document)))]

lemma document_eq : d.document = .object (Document.written d.fields) := by
  obtain ⟨key, requiredness, quantifier, type, predicates⟩ := d
  cases type <;> cases predicates <;> rfl

lemma fields?_document (format : Document.Format) :
    d.document.fields? format ["key", "requiredness", "quantifier", "type", "predicates"]
      = some (d.fields.map Prod.snd) := by
  rw [document_eq]
  exact Document.fields?_written format rfl (by decide)

variable {d}

lemma ofDocument?_document (format : Document.Format)
    (h : ∀ p ∈ d.predicates, ∀ v ∈ p.args, v.NamesDistinct) :
    ofDocument? format d.document = some d := by
  have hpredicates : Document.list? (PredicateDeclaration.ofDocument? format)
      (.array (d.predicates.map PredicateDeclaration.document)) = some d.predicates :=
    Document.list?_map fun p hp => PredicateDeclaration.ofDocument?_document format (h p hp)
  simp only [ofDocument?, fields?_document, fields, Option.bind_eq_bind, Option.bind_some,
    List.map_cons, List.map_nil, Document.required?, Document.string?, Document.defaulted?_some,
    Requiredness.ofDocument?_document, Quantifier.ofDocument?_document, Document.optional?_string,
    Document.defaulted?_unless_empty hpredicates]

lemma writable_document (h : ∀ p ∈ d.predicates, ∀ v ∈ p.args, Json.Writable v.document) :
    Json.Writable d.document := by
  have hpredicates : Json.Writable (.array (d.predicates.map PredicateDeclaration.document)) := by
    apply Json.writable_array
    exact List.forall_mem_map.mpr fun p hp => PredicateDeclaration.writable_document (h p hp)
  rw [document_eq]
  apply Json.writable_written
  simp only [fields, List.forall_mem_cons]
  have htype : ∀ c ∈ d.type.map Document.string, Json.Writable c := by
    intro c hc
    obtain ⟨type, _, rfl⟩ := Option.map_eq_some_iff.mp hc
    exact Json.writable_string type
  exact ⟨Json.writable_some (Json.writable_string d.key), Json.writable_some (Json.writable_string _),
    Json.writable_some (Json.writable_string _), htype,
    Json.writable_unless_empty d.predicates hpredicates, nofun⟩

lemma type_written_iff : "type" ∈ d.document.names ↔ d.type ≠ none := by
  rw [document_eq, Document.mem_names_written]
  cases h : d.type <;> simp [fields, h]

lemma predicates_written_iff : "predicates" ∈ d.document.names ↔ d.predicates ≠ [] := by
  rw [document_eq, Document.mem_names_written]
  cases h : d.predicates <;> simp [fields, h]

end KeyDeclaration

namespace SchemaDeclaration

def arguments (s : SchemaDeclaration) : List Value :=
  s.keys.flatMap fun k => k.predicates.flatMap PredicateDeclaration.args

variable {s : SchemaDeclaration} {P : Value → Prop}

lemma forall_mem_arguments (h : ∀ v ∈ s.arguments, P v) :
    ∀ k ∈ s.keys, ∀ p ∈ k.predicates, ∀ v ∈ p.args, P v := fun k hk p hp v hv =>
  h v (List.mem_flatMap.mpr ⟨k, hk, List.mem_flatMap.mpr ⟨p, hp, hv⟩⟩)

lemma ofDocument?_document (format : Document.Format) (h : ∀ v ∈ s.arguments, v.NamesDistinct) :
    ofDocument? format s.document = some s := by
  have hkeys : Document.list? (KeyDeclaration.ofDocument? format)
      (.array (s.keys.map KeyDeclaration.document)) = some s.keys :=
    Document.list?_map fun k hk =>
      KeyDeclaration.ofDocument?_document format (forall_mem_arguments h k hk)
  have hfields : s.document.fields? format ["keys"]
      = some [some (.array (s.keys.map KeyDeclaration.document))] :=
    Document.fields?_object format rfl (by decide)
  simp only [ofDocument?, hfields, Option.bind_eq_bind, Option.bind_some, Document.defaulted?_some,
    hkeys]

lemma writable_document (h : ∀ v ∈ s.arguments, Json.Writable v.document) :
    Json.Writable s.document := by
  have hkeys : Json.Writable (.array (s.keys.map KeyDeclaration.document)) := by
    apply Json.writable_array
    exact List.forall_mem_map.mpr fun k hk =>
      KeyDeclaration.writable_document (forall_mem_arguments h k hk)
  apply Json.writable_object
  simp only [List.forall_mem_singleton]
  exact hkeys

theorem declaration_read_back {s : SchemaDeclaration}
    (hnames : ∀ v ∈ s.arguments, v.NamesDistinct) (hdepth : s.document.depth ≤ Json.depthLimit)
    (hfinite : ∀ v ∈ s.arguments, ∀ x, Value.float x ∈ v.parts → x.isFinite = true)
    (hreads : ∀ v ∈ s.arguments, ∀ x, Value.float x ∈ v.parts → x.isFinite = true →
      Json.ReadsBack x) :
    (∀ text ∈ [s.print, Json.pretty s.document], parse? .json text = some s) ∧
      ∀ k ∈ s.keys, KeyDeclaration.ofDocument? Json.format k.document = some k ∧
        ("type" ∈ k.document.names ↔ k.type ≠ none) ∧
        ("predicates" ∈ k.document.names ↔ k.predicates ≠ []) ∧
        ∀ p ∈ k.predicates, PredicateDeclaration.ofDocument? Json.format p.document = some p ∧
          ("args" ∈ p.document.names ↔ p.args ≠ []) := by
  have hwritable : Json.Writable s.document := writable_document fun v hv =>
    Value.writable_document fun x hx => ⟨hfinite v hv x hx, hreads v hv x hx (hfinite v hv x hx)⟩
  have hlegible : Json.Legible Json.depthLimit s.document := hwritable.legible hdepth
  constructor
  · exact Json.read_of_mem hlegible (ofDocument?_document Json.format hnames)
  · intro k hk
    have hargs : ∀ p ∈ k.predicates, ∀ v ∈ p.args, v.NamesDistinct :=
      forall_mem_arguments hnames k hk
    refine ⟨KeyDeclaration.ofDocument?_document Json.format hargs, k.type_written_iff,
      k.predicates_written_iff, fun p hp => ⟨?_, p.args_written_iff⟩⟩
    exact PredicateDeclaration.ofDocument?_document Json.format (hargs p hp)

theorem declaration_read_back_sparse :
    let nested := Value.map [("z\"", .array [.float 0.1, .null, .map []]), ("\x01", .float 5e-324)]
    let s : SchemaDeclaration := ⟨[
      ⟨"b\\", .optional, .maybe, none, [⟨"eql?", [nested, .integer (-1)]⟩, ⟨"none?", []⟩]⟩,
      ⟨"a", .required, .filled, some "string", []⟩,
      ⟨"a", .required, .value, some "", [⟨"eql?", [.float (-0.0), .string "é\n"]⟩]⟩]⟩
    (∀ text ∈ [s.print, Json.pretty s.document], parse? .json text = some s) ∧
      ∀ k ∈ s.keys, KeyDeclaration.ofDocument? Json.format k.document = some k ∧
        ("type" ∈ k.document.names ↔ k.type ≠ none) ∧
        ("predicates" ∈ k.document.names ↔ k.predicates ≠ []) ∧
        ∀ p ∈ k.predicates, PredicateDeclaration.ofDocument? Json.format p.document = some p ∧
          ("args" ∈ p.document.names ↔ p.args ≠ []) := by
  intro nested s
  have hargs : s.arguments
      = [nested, .integer (-1), .float (-0.0), .string "é\n"] := rfl
  have hnames : ∀ v ∈ s.arguments, v.NamesDistinct := by
    rw [hargs]
    decide
  have hfloats : ∀ v ∈ s.arguments, ∀ x, Value.float x ∈ v.parts →
      x = 0.1 ∨ x = 5e-324 ∨ x = -0.0 := by
    rw [hargs]
    simp [nested, Value.parts, Value.partsIn, Value.partsOf]
  have hfinite : ∀ v ∈ s.arguments, ∀ x, Value.float x ∈ v.parts → x.isFinite = true := by
    intro v hv x hx
    rcases hfloats v hv x hx with rfl | rfl | rfl <;> decide +kernel
  have hreads : ∀ v ∈ s.arguments, ∀ x, Value.float x ∈ v.parts → x.isFinite = true →
      Json.ReadsBack x := by
    intro v hv x hx _
    apply Json.readsBack_of_eq
    rcases hfloats v hv x hx with rfl | rfl | rfl <;> decide +kernel
  exact declaration_read_back hnames (by decide) hfinite hreads

end SchemaDeclaration

end Conform
