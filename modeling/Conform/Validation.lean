import Conform.Evaluation
import Conform.Outcome
import Conform.Schema.Compile
/-!
Validating inputs against a compiled schema.
-/

namespace Conform.Schema

def validate (schema : Schema) (input : Input) : Outcome :=
  Outcome.ofRecords schema.templates
    (schema.rules.map fun rule => (rule.key, Pipeline.standard.evaluate rule input))

theorem failures_validate (schema : Schema) (input : Input) :
    (schema.validate input).failures
      = schema.rules.flatMap fun rule =>
          (Pipeline.standard.evaluate rule input).map (Outcome.failure schema.templates rule.key) := by
  simp [validate, Outcome.failures_ofRecords, List.flatMap_map]

def validateAll (schema : Schema) (inputs : List Input) : List Outcome :=
  inputs.map schema.validate

end Conform.Schema
