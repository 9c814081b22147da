import Conform.Presence
import Conform.Value.Codec
import Conform.Json.Literal
import Conform.Json.Printer
/-!
Inputs: the mappings from keys to raw values that are validated.
-/

namespace Conform

inductive InputStyle where
  | params
  | json
  deriving DecidableEq, Repr

def InputStyle.name : InputStyle → String
  | params => "params"
  | json => "json"

def InputStyle.all : List InputStyle := [.params, .json]

structure Input where
  values : OrderedMap Value

inductive InputError where
  | malformed
  | notAMapping (got : ValueKind)

def InputError.message : InputError → String
  | malformed => "JSON error: malformed document"
  | notAMapping got => "Input must be a mapping, got " ++ got.name

namespace Input

def empty : Input := ⟨OrderedMap.empty⟩

instance : Inhabited Input := ⟨empty⟩

def ofEntries (entries : Entries Value) : Input := ⟨OrderedMap.ofList entries⟩

def get? (input : Input) (key : String) : Option Value := input.values.get? key

def contains (input : Input) (key : String) : Bool := input.values.contains key

def insert (input : Input) (key : String) (v : Value) : Input := ⟨input.values.insert key v⟩

def size (input : Input) : Nat := input.values.size

def isEmpty (input : Input) : Bool := input.values.isEmpty

def ofValue : Value → Except InputError Input
  | .map entries => .ok (ofEntries entries)
  | v => .error (.notAMapping v.kind)

def parse (text : String) : Except InputError Input :=
  match (Json.document? text).bind Value.ofDocument? with
  | some v => ofValue v
  | none => .error .malformed

def ofDocument? (d : Document) : Option Input := (d.map? Value.ofDocument?).map Input.mk

def toValue (input : Input) : Value := .map input.values.entries

def document (input : Input) : Document := input.toValue.document

def classify (input : Input) (key : String) (emptyText : EmptyText) : Presence :=
  Presence.classify emptyText (input.get? key)

end Input

end Conform
