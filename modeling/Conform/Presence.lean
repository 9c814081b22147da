import Conform.Value
/-!
How one key stands in one input. Null and blank are refinements of being there; absence is a case of
its own and never the same as null.
-/

namespace Conform

inductive EmptyText where
  | null
  | blank
  deriving DecidableEq, Repr

def EmptyText.name : EmptyText → String
  | null => "null"
  | blank => "blank"

def EmptyText.all : List EmptyText := [.null, .blank]

inductive PresenceKind where
  | absent
  | null
  | blank
  | present
  deriving DecidableEq, Repr

namespace PresenceKind

def all : List PresenceKind := [absent, null, blank, present]

def name : PresenceKind → String
  | absent => "absent"
  | null => "null"
  | blank => "blank"
  | present => "present"

end PresenceKind

inductive Presence where
  | absent
  | null
  | blank (v : Value)
  | present (v : Value)

namespace Presence

def kind : Presence → PresenceKind
  | absent => .absent
  | null => .null
  | blank _ => .blank
  | present _ => .present

def value : Presence → Option Value
  | absent => none
  | null => some .null
  | blank v | present v => some v

def isAbsent : Presence → Bool
  | absent => true
  | _ => false

def classify (emptyText : EmptyText) : Option Value → Presence
  | none => absent
  | some .null => null
  | some (.string s) =>
    if s.isEmpty then
      match emptyText with
      | .null => null
      | .blank => blank (.string s)
    else present (.string s)
  | some (.array items) => if items.isEmpty then blank (.array items) else present (.array items)
  | some (.map entries) => if entries.isEmpty then blank (.map entries) else present (.map entries)
  | some v => present v

variable {emptyText emptyText' : EmptyText} {raw : Option Value} {v : Value}

theorem kind_classify_absent_iff : (classify emptyText raw).kind = .absent ↔ raw = none := by
  match raw with
  | none | some .null | some (.boolean _) | some (.integer _) | some (.float _) =>
    simp [classify, kind]
  | some (.string s) => cases emptyText <;> by_cases h : s.isEmpty = true <;> simp [classify, kind, h]
  | some (.array items) => by_cases h : items.isEmpty = true <;> simp [classify, kind, h]
  | some (.map entries) => by_cases h : entries.isEmpty = true <;> simp [classify, kind, h]

theorem kind_classify_null_iff : (classify emptyText raw).kind = .null ↔
    raw = some .null ∨ raw = some (.string "") ∧ emptyText = .null := by
  match raw with
  | none | some .null | some (.boolean _) | some (.integer _) | some (.float _) =>
    simp [classify, kind]
  | some (.string s) =>
    by_cases h : s = ""
    · cases emptyText <;> simp [classify, kind, h]
    · simp [classify, kind, h]
  | some (.array items) => by_cases h : items.isEmpty = true <;> simp [classify, kind, h]
  | some (.map entries) => by_cases h : entries.isEmpty = true <;> simp [classify, kind, h]

theorem kind_classify_present_iff :
    (classify emptyText (some v)).kind = .present ↔ v.isNull = false ∧ v.isEmpty = false := by
  match v with
  | .null | .boolean _ | .integer _ | .float _ =>
    simp [classify, kind, Value.isNull, Value.isEmpty]
  | .string s =>
    cases emptyText <;> by_cases h : s.isEmpty = true <;>
      simp [classify, kind, Value.isNull, Value.isEmpty, h]
  | .array items =>
    by_cases h : items.isEmpty = true <;> simp [classify, kind, Value.isNull, Value.isEmpty, h]
  | .map entries =>
    by_cases h : entries.isEmpty = true <;> simp [classify, kind, Value.isNull, Value.isEmpty, h]

theorem kind_classify_blank_iff : (classify emptyText (some v)).kind = .blank ↔
    v.isEmpty = true ∧ ¬ (v = .string "" ∧ emptyText = .null) := by
  match v with
  | .null | .boolean _ | .integer _ | .float _ => simp [classify, kind, Value.isEmpty]
  | .string s =>
    by_cases h : s = ""
    · cases emptyText <;> simp [classify, kind, Value.isEmpty, h]
    · simp [classify, kind, Value.isEmpty, h]
  | .array items => by_cases h : items.isEmpty = true <;> simp [classify, kind, Value.isEmpty, h]
  | .map entries => by_cases h : entries.isEmpty = true <;> simp [classify, kind, Value.isEmpty, h]

theorem value_classify (h : (classify emptyText raw).kind ≠ .null) :
    (classify emptyText raw).value = raw := by
  match raw with
  | none | some .null | some (.boolean _) | some (.integer _) | some (.float _) => rfl
  | some (.string s) =>
    by_cases hs : s.isEmpty = true
    · cases emptyText with
      | null => simp [classify, hs, kind] at h
      | blank => simp [classify, hs, value]
    · simp [classify, hs, value]
  | some (.array items) => by_cases hi : items.isEmpty = true <;> simp [classify, hi, value]
  | some (.map entries) => by_cases he : entries.isEmpty = true <;> simp [classify, he, value]

theorem value_of_kind_null {p : Presence} (h : p.kind = .null) : p.value = some .null := by
  cases p with
  | null => rfl
  | _ => cases h

theorem classify_of_present (h : classify emptyText raw = present v) :
    classify emptyText' raw = present v := by
  match raw with
  | none | some .null => cases h
  | some (.string s) =>
    by_cases hs : s.isEmpty = true
    · cases emptyText <;> simp [classify, hs] at h
    · simpa [classify, hs] using h
  | some (.boolean _) | some (.integer _) | some (.float _) | some (.array _) | some (.map _) =>
    exact h

end Presence

end Conform
