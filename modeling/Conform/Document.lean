import Conform.OrderedMap
/-!
Documents: what a text says before any declared type is read out of it, and the readers from which
declared types build theirs. A part whose literal has no meaning, or that lies too deep, is
`unreadable`: every reader refuses it, and a reader that does not look at it does not mind.
-/

namespace Conform

inductive Document where
  | null
  | boolean (b : Bool)
  | integer (n : Int)
  | float (x : Float)
  | string (s : String)
  | array (items : List Document)
  /-- Entries as written, repeated names included. -/
  | object (entries : List (String × Document))
  | unreadable

namespace Document

instance : Inhabited Document := ⟨null⟩

structure Format where
  isUnit : Document → Bool
  /-- Whether a record written as a list may go on after its last field. -/
  allowsSurplus : Bool

def string? : Document → Option String
  | string s => some s
  | _ => none

def boolean? : Document → Option Bool
  | boolean b => some b
  | _ => none

def count? : Document → Option Nat
  | integer n => if 0 ≤ n ∧ n < 18446744073709551616 then some n.toNat else none
  | _ => none

def list? {α : Type} (read : Document → Option α) : Document → Option (List α)
  | array items => items.mapM read
  | _ => none

def map? {α : Type} (read : Document → Option α) : Document → Option (OrderedMap α)
  | object entries =>
    (entries.mapM fun e => (read e.2).map fun a => (e.1, a)).map OrderedMap.ofList
  | _ => none

/-- The only content under a name: `none` inside if the name is missing, a failure if it is
repeated. -/
def unique? (entries : List (String × Document)) (name : String) : Option (Option Document) :=
  match entries.filter fun e => e.1 == name with
  | [] => some none
  | [e] => some (some e.2)
  | _ => none

/-- The fields of a record in the order of `names`. A record is written as an object, in which other
names are passed over, or as the list of its first fields. -/
def fields? (format : Format) (names : List String) : Document → Option (List (Option Document))
  | object entries => names.mapM (unique? entries)
  | array items =>
    if items.length ≤ names.length || format.allowsSurplus then
      some (names.zipIdx.map fun n => items[n.2]?)
    else none
  | _ => none

def variant? {α : Type} (format : Format) (variants : List (String × α)) : Document → Option α
  | string s => variants.lookup s
  | object [(s, content)] => if format.isUnit content then variants.lookup s else none
  | _ => none

def required? {α : Type} (read : Document → Option α) (field : Option Document) : Option α :=
  field.bind read

def defaulted? {α : Type} (default : α) (read : Document → Option α) :
    Option Document → Option α
  | none => some default
  | some d => read d

def optional? {α : Type} (read : Document → Option α) : Option Document → Option (Option α)
  | none | some null => some none
  | some d => (read d).map some

end Document

end Conform
