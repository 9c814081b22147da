import Conform.Evaluation.Guard
import Conform.Input
import Conform.Schema.Rule
/-!
Evaluating one key of an input. A pipeline is a list of stages; each adds the failures of one kind
and says whether the key is evaluated further.
-/

namespace Conform

structure Evaluation where
  presence : Presence
  subject : Option Value
  skipType : Bool
  failures : List FailedCheck

namespace Evaluation

def start (rule : Rule) (input : Input) : Evaluation :=
  let presence := input.classify rule.key rule.emptyText
  ⟨presence, presence.value, false, []⟩

def fail (e : Evaluation) (check : FailedCheck) : Evaluation :=
  { e with failures := e.failures ++ [check] }

end Evaluation

inductive Progress where
  | proceed
  | halt
  deriving DecidableEq, Repr

structure Stage where
  name : String
  run : Rule → Evaluation → Progress × Evaluation

namespace Stage

def keyPresence : Stage where
  name := "Key Presence"
  run rule e :=
    match KeyCheck.of rule.requiredness e.presence.kind with
    | .missing => (.proceed, e.fail (.bare .keyPresence))
    | .skip => (.halt, e)
    | .proceed => (.proceed, e)

def quantifier : Stage where
  name := "Quantifier"
  run rule e :=
    let guard := Guard.of rule.quantifier e.presence.kind
    let e := if guard.notFilled then e.fail (.bare .quantifier) else e
    if guard.skipAll then (.halt, e) else (.proceed, { e with skipType := guard.skipType })

def type : Stage where
  name := "Type"
  run rule e :=
    match rule.declaredType, e.skipType with
    | some t, false =>
      match t.coerce e.presence with
      | .coerced v _ => (.proceed, { e with subject := some v })
      | .failed _ => (.proceed, e.fail (.bare (.type t.name)))
    | _, _ => (.proceed, e)

def failedPredicate (p : PredicateRule) : FailedCheck := ⟨.predicate p.name, p.namedArgs⟩

def predicates : Stage where
  name := "Predicates"
  run rule e :=
    let rejecting := rule.predicates.filter fun p => !p.holds e.subject
    (.proceed, { e with failures := e.failures ++ rejecting.map failedPredicate })

end Stage

abbrev Pipeline := List Stage

namespace Pipeline

def standard : Pipeline := [Stage.keyPresence, Stage.quantifier, Stage.type, Stage.predicates]

def names (pipeline : Pipeline) : List String := pipeline.map (·.name)

def run (rule : Rule) : Pipeline → Evaluation → Option String × Evaluation
  | [], e => (none, e)
  | stage :: stages, e =>
    match stage.run rule e with
    | (.halt, e) => (some stage.name, e)
    | (.proceed, e) => run rule stages e

def evaluate (pipeline : Pipeline) (rule : Rule) (input : Input) : List FailedCheck :=
  (run rule pipeline (Evaluation.start rule input)).2.failures

def trace (rule : Rule) : Pipeline → Evaluation → List (Progress × Evaluation)
  | [], _ => []
  | stage :: stages, e =>
    let step := stage.run rule e
    step :: trace rule stages step.2

end Pipeline

end Conform
