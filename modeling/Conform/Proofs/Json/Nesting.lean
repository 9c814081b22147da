import Conform.Proofs.Document.Record
import Conform.Proofs.Value.RoundTrip

/-! How deep documents nest, and documents that are read back wherever there is room for them. A
document that is put together from such documents is one too. -/

namespace Conform

namespace Document

mutual

def depth : Document → Nat
  | array items => depthOf items + 1
  | object entries => depthIn entries + 1
  | _ => 0

def depthOf : List Document → Nat
  | [] => 0
  | d :: ds => max (depth d) (depthOf ds)

def depthIn : List (String × Document) → Nat
  | [] => 0
  | (_, d) :: es => max (depth d) (depthIn es)

end

variable {d : Document} {items : List Document} {entries : List (String × Document)}

lemma depth_le_depthOf (h : d ∈ items) : d.depth ≤ depthOf items := by
  induction items with
  | nil => cases h
  | cons e items ih =>
    rw [depthOf]
    rcases List.mem_cons.mp h with rfl | h
    · exact le_max_left _ _
    · exact (ih h).trans (le_max_right _ _)

lemma depth_le_depthIn {e : String × Document} (h : e ∈ entries) : e.2.depth ≤ depthIn entries := by
  induction entries with
  | nil => cases h
  | cons f entries ih =>
    rw [depthIn]
    rcases List.mem_cons.mp h with rfl | h
    · exact le_max_left _ _
    · exact (ih h).trans (le_max_right _ _)

end Document

namespace Json

variable {room wide : Nat} {d : Document} {items : List Document}
  {entries : List (String × Document)}

lemma Legible.mono (h : Legible room d) (hwide : room ≤ wide) : Legible wide d := by
  induction h generalizing wide with
  | null => exact .null
  | boolean => exact .boolean
  | integer hlow hhigh => exact .integer hlow hhigh
  | float hfinite hx => exact .float hfinite hx
  | string => exact .string
  | array _ ih =>
    obtain ⟨wide, rfl⟩ : ∃ k, wide = k + 1 := ⟨wide - 1, by omega⟩
    exact .array fun d hd => ih d hd (by omega)
  | object _ ih =>
    obtain ⟨wide, rfl⟩ : ∃ k, wide = k + 1 := ⟨wide - 1, by omega⟩
    exact .object fun e he => ih e he (by omega)

def Writable (d : Document) : Prop := Legible d.depth d

lemma Writable.legible (h : Writable d) (hdepth : d.depth ≤ room) : Legible room d :=
  Legible.mono h hdepth

lemma writable_string (s : String) : Writable (.string s) := .string

lemma writable_array (h : ∀ d ∈ items, Writable d) : Writable (.array items) := by
  rw [Writable, Document.depth]
  exact .array fun d hd => (h d hd).legible (Document.depth_le_depthOf hd)

lemma writable_object (h : ∀ e ∈ entries, Writable e.2) : Writable (.object entries) := by
  rw [Writable, Document.depth]
  exact .object fun e he => (h e he).legible (Document.depth_le_depthIn he)

lemma writable_written {fields : List (String × Option Document)}
    (h : ∀ f ∈ fields, ∀ d ∈ f.2, Writable d) : Writable (.object (Document.written fields)) :=
  writable_object fun _ he => h _ (Document.mem_written.mp he) _ rfl

lemma writable_some (h : Writable d) : ∀ c ∈ some d, Writable c := by
  intro c hc
  cases hc
  exact h

lemma writable_unless_empty {α : Type} (as : List α) (h : Writable d) :
    ∀ c ∈ if as.isEmpty then none else some d, Writable c := by
  cases as with
  | nil => exact nofun
  | cons a as => exact writable_some h

end Json

namespace Value

variable {items : List Value} {entries : List (String × Value)}

lemma depthOf_documents (h : ∀ v ∈ items, v.document.depth = v.depth) :
    Document.depthOf (documents items) = depthOf items := by
  induction items with
  | nil => rfl
  | cons v items ih =>
    obtain ⟨hv, hitems⟩ := List.forall_mem_cons.mp h
    rw [documents, Document.depthOf, depthOf, hv, ih hitems]

lemma depthIn_documentsOf (h : ∀ e ∈ entries, e.2.document.depth = e.2.depth) :
    Document.depthIn (documentsOf entries) = depthIn entries := by
  induction entries with
  | nil => rfl
  | cons e entries ih =>
    obtain ⟨he, hentries⟩ := List.forall_mem_cons.mp h
    rw [documentsOf, Document.depthIn, depthIn, he, ih hentries]

lemma depth_document (v : Value) : v.document.depth = v.depth := by
  induction v using nested_induction with
  | array items ih => rw [document, Document.depth, depth, depthOf_documents ih]
  | map entries ih => rw [document, Document.depth, depth, depthIn_documentsOf ih]
  | _ => simp [document, Document.depth, depth]

lemma writable_document {v : Value}
    (h : ∀ x, float x ∈ v.parts → x.isFinite = true ∧ Json.ReadsBack x) :
    Json.Writable v.document :=
  legible_document (depth_document v).ge h

end Value

end Conform
