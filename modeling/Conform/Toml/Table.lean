import Conform.Document
/-!
Tables under construction. Which later statement may add to a table depends on how the table came to
be, so each carries its origin: a header opened it, or it lies on the way to a table with a header, or
on the way to a value under a dotted key.
-/

namespace Conform.Toml

inductive Origin where
  | header
  | implied
  | dotted
  deriving DecidableEq, Repr

inductive Node where
  | leaf (d : Document)
  | table (origin : Origin) (entries : List (String × Node))
  | tables (items : List (List (String × Node)))

namespace Node

mutual

def document : Node → Document
  | leaf d => d
  | table _ entries => .object (documentsOf entries)
  | tables items => .array (objects items)

def documentsOf : List (String × Node) → List (String × Document)
  | [] => []
  | (key, node) :: es => (key, document node) :: documentsOf es

def objects : List (List (String × Node)) → List Document
  | [] => []
  | es :: items => .object (documentsOf es) :: objects items

end

end Node

/-- Changes the table at the end of a path, and gives what the change gives besides. Tables that are
missing on the way are made with the origin `made`. An array of tables stands for its last item. A
dotted key does not lead into a table that a header opened. -/
def modifyAt {β : Type} (made : Origin)
    (change : Origin → Entries Node → Option (β × Entries Node)) :
    List String → Origin → Entries Node → Option (β × Entries Node)
  | [], origin, es => change origin es
  | key :: path, _, es =>
    match Entries.get? es key with
    | none => do
      let (b, inner) ← modifyAt made change path made []
      some (b, es ++ [(key, .table made inner)])
    | some (.leaf _) => none
    | some (.table origin inner) =>
      if made = .dotted ∧ origin = .header then none
      else do
        let (b, inner) ← modifyAt made change path origin inner
        some (b, Entries.insert es key (.table origin inner))
    | some (.tables items) =>
      match items.getLast? with
      | none => none
      | some last => do
        let (b, inner) ← modifyAt made change path .header last
        some (b, Entries.insert es key (.tables (items.dropLast ++ [inner])))

def assign (es : Entries Node) (path : List String) (key : String) (node : Node) :
    Option (Entries Node) :=
  let put (origin : Origin) (es : Entries Node) : Option (Unit × Entries Node) :=
    if path ≠ [] ∧ origin ≠ .dotted then none
    else if (Entries.get? es key).isSome then none
    else some ((), es ++ [(key, node)])
  (modifyAt .dotted put path .header es).map Prod.snd

structure Build where
  root : Entries Node
  current : Entries Node
  place : Option (List String × String)
  isItem : Bool

namespace Build

def start : Build := ⟨[], [], none, false⟩

def close (b : Build) : Option (Entries Node) :=
  match b.place with
  | none => some b.current
  | some (path, key) =>
    let put (_ : Origin) (es : Entries Node) : Option (Unit × Entries Node) :=
      match b.isItem, Entries.get? es key with
      | true, some (.tables items) =>
        some ((), Entries.insert es key (.tables (items ++ [b.current])))
      | false, none => some ((), es ++ [(key, .table .header b.current)])
      | _, _ => none
    (modifyAt .implied put path .header b.root).map Prod.snd

/-- A header opens a table that is new, or that so far only lay on the way to others; the latter
moves behind its neighbours. -/
def openTable (b : Build) (path : List String) (key : String) : Option Build := do
  let root ← b.close
  let take (_ : Origin) (es : Entries Node) : Option (Entries Node × Entries Node) :=
    match Entries.get? es key with
    | none => some ([], es)
    | some (.table .implied inner) => some (inner, es.filter fun e => e.1 != key)
    | some _ => none
  let (current, root) ← modifyAt .implied take path .header root
  some ⟨root, current, some (path, key), false⟩

def openItem (b : Build) (path : List String) (key : String) : Option Build := do
  let root ← b.close
  let prepare (_ : Origin) (es : Entries Node) : Option (Unit × Entries Node) :=
    match Entries.get? es key with
    | none => some ((), es ++ [(key, .tables [])])
    | some (.tables _) => some ((), es)
    | some _ => none
  let (_, root) ← modifyAt .implied prepare path .header root
  some ⟨root, [], some (path, key), true⟩

def assign (b : Build) (path : List String) (key : String) (d : Document) : Option Build := do
  some { b with current := ← Toml.assign b.current path key (.leaf d) }

end Build

end Conform.Toml
