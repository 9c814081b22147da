import Conform.Predicate.Builtin
/-!
The predicates that a schema can declare: one table by name in order of first registration, and one
index by category in order of latest registration.
-/

namespace Conform

structure PredicateRegistry where
  predicates : OrderedMap Predicate
  named : predicates.Named Predicate.name
  index : List (Category × String)

namespace PredicateRegistry

def empty : PredicateRegistry := ⟨OrderedMap.empty, OrderedMap.named_empty _, []⟩

/-- A predicate of the same name is replaced, and its name leaves the category that it had; no other
category is searched for it. -/
def register (registry : PredicateRegistry) (p : Predicate) : PredicateRegistry where
  predicates := registry.predicates.insert p.name p
  named := registry.named.insert p
  index :=
    let others := match registry.predicates.get? p.name with
      | some previous => registry.index.filter fun e => e != (previous.category, p.name)
      | none => registry.index
    others ++ [(p.category, p.name)]

def ofList (predicates : List Predicate) : PredicateRegistry := predicates.foldl register empty

def builtin : PredicateRegistry := ofList Predicate.builtins

instance : Inhabited PredicateRegistry := ⟨builtin⟩

def get? (registry : PredicateRegistry) (name : String) : Option Predicate :=
  registry.predicates.get? name

theorem name_of_get? {registry : PredicateRegistry} {name : String} {p : Predicate}
    (h : registry.get? name = some p) : p.name = name :=
  registry.named.of_get? h

def contains (registry : PredicateRegistry) (name : String) : Bool :=
  registry.predicates.contains name

def names (registry : PredicateRegistry) : List String := registry.predicates.keys

def size (registry : PredicateRegistry) : Nat := registry.predicates.size

def isEmpty (registry : PredicateRegistry) : Bool := registry.predicates.isEmpty

def byCategory (registry : PredicateRegistry) (category : Category) : List String :=
  (registry.index.filter fun e => e.1 == category).map Prod.snd

def addToGroup (groups : List (Category × List Predicate)) (p : Predicate) :
    List (Category × List Predicate) :=
  match groups with
  | [] => [(p.category, [p])]
  | (category, ps) :: groups =>
    if category = p.category then (category, ps ++ [p]) :: groups
    else (category, ps) :: addToGroup groups p

def sortByName (ps : List Predicate) : List Predicate := ps.mergeSort fun p q => p.name ≤ q.name

def grouped (registry : PredicateRegistry) : List (Category × List Predicate) :=
  (registry.predicates.values.foldl addToGroup []).map fun g => (g.1, sortByName g.2)

end PredicateRegistry

end Conform
