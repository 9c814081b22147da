import Conform.DeclaredType
import Conform.Input
import Conform.Decimal.Numeral
/-!
The types that a schema can declare. Parameter input brings scalars as text, so there the scalar
types parse text and an empty string says that there is no value; documents are typed already, so
there a type only checks the kind.
-/

namespace Conform

namespace DeclaredType

def strictInteger (v : Value) : Option Value := v.integer?.map .integer

def strictFloat (v : Value) : Option Value := v.float?.map .float

def strictBoolean (v : Value) : Option Value := v.boolean?.map .boolean

def strictString (v : Value) : Option Value := v.string?.map .string

def strictArray (v : Value) : Option Value := v.array?.map .array

def strictMap (v : Value) : Option Value := v.map?.map .map

def integerOfText? (text : String) : Option Int64 :=
  (Decimal.integer? text.toList).bind Decimal.int64?

def floatOfText? (text : String) : Option Float :=
  (Decimal.float? text.toList).filter Float.isFinite

def trueWords : List String := ["true", "1", "on", "t", "yes", "y"]

def falseWords : List String := ["false", "0", "off", "f", "no", "n"]

def booleanOfText? (text : String) : Option Bool :=
  if trueWords.contains text then some true
  else if falseWords.contains text then some false
  else none

def textInteger : Value → Option Value
  | .string s => (integerOfText? s).map .integer
  | v => strictInteger v

def textFloat : Value → Option Value
  | .string s => (floatOfText? s).map .float
  | v => strictFloat v

def textBoolean : Value → Option Value
  | .string s => (booleanOfText? s).map .boolean
  | v => strictBoolean v

def scalar (name typePredicate : String) (emptyText : EmptyText) (parse : Value → Option Value) :
    DeclaredType :=
  ⟨name, typePredicate, emptyText, false, parse⟩

def blankable (name typePredicate : String) (parse : Value → Option Value) : DeclaredType :=
  ⟨name, typePredicate, .blank, true, parse⟩

def blankableTypes : List DeclaredType :=
  [blankable "string" "str?" strictString, blankable "array" "array?" strictArray,
    blankable "hash" "hash?" strictMap]

def paramsTypes : List DeclaredType :=
  [scalar "integer" "int?" .null textInteger, scalar "float" "float?" .null textFloat,
    scalar "decimal" "decimal?" .null textFloat, scalar "bool" "bool?" .null textBoolean]
    ++ blankableTypes

def jsonTypes : List DeclaredType :=
  [scalar "integer" "int?" .blank strictInteger, scalar "float" "float?" .blank strictFloat,
    scalar "decimal" "decimal?" .blank strictFloat, scalar "bool" "bool?" .blank strictBoolean]
    ++ blankableTypes

end DeclaredType

structure TypeRegistry where
  types : OrderedMap DeclaredType
  named : types.Named DeclaredType.name

namespace TypeRegistry

def empty : TypeRegistry := ⟨OrderedMap.empty, OrderedMap.named_empty _⟩

def register (registry : TypeRegistry) (type : DeclaredType) : TypeRegistry :=
  ⟨registry.types.insert type.name type, registry.named.insert type⟩

def ofList (types : List DeclaredType) : TypeRegistry := types.foldl register empty

def params : TypeRegistry := ofList DeclaredType.paramsTypes

def json : TypeRegistry := ofList DeclaredType.jsonTypes

def forStyle : InputStyle → TypeRegistry
  | .params => params
  | .json => json

instance : Inhabited TypeRegistry := ⟨params⟩

def get? (registry : TypeRegistry) (name : String) : Option DeclaredType := registry.types.get? name

theorem name_of_get? {registry : TypeRegistry} {name : String} {type : DeclaredType}
    (h : registry.get? name = some type) : type.name = name :=
  registry.named.of_get? h

def contains (registry : TypeRegistry) (name : String) : Bool := registry.types.contains name

def names (registry : TypeRegistry) : List String := registry.types.keys

def size (registry : TypeRegistry) : Nat := registry.types.size

def isEmpty (registry : TypeRegistry) : Bool := registry.types.isEmpty

end TypeRegistry

end Conform
