import Conform.Message.TemplateSet
/-!
The outcome of a validation: a verdict, the messages of each failing key and the list of all
failures. The failed checks of the keys are recorded one key after the other.
-/

namespace Conform

structure Failure where
  key : String
  check : Check
  message : String
  deriving DecidableEq, Repr

def Failure.display (f : Failure) : String := f.key ++ " " ++ f.message

structure Outcome where
  successful : Bool
  messages : OrderedMap (List String)
  failures : List Failure

namespace Outcome

def success : Outcome := ⟨true, OrderedMap.empty, []⟩

instance : Inhabited Outcome := ⟨success⟩

def messagesFor (o : Outcome) (key : String) : List String := (o.messages.get? key).getD []

def summary (o : Outcome) : String :=
  if o.successful then "✓ Input is valid"
  else "✗ " ++ toString o.failures.length ++ " failure(s) across " ++ toString o.messages.size
    ++ " key(s)"

def failure (templates : TemplateSet) (key : String) (c : FailedCheck) : Failure :=
  ⟨key, c.check, templates.resolve c.check c.args⟩

def record (templates : TemplateSet) (o : Outcome) (key : String) (checks : List FailedCheck) :
    Outcome :=
  if checks.isEmpty then o
  else
    let failures := checks.map (failure templates key)
    { successful := false
      messages := o.messages.insert key (o.messagesFor key ++ failures.map (·.message))
      failures := o.failures ++ failures }

theorem failures_record (templates : TemplateSet) (o : Outcome) (key : String)
    (checks : List FailedCheck) :
    (o.record templates key checks).failures = o.failures ++ checks.map (failure templates key) := by
  cases checks <;> simp [record]

def ofRecords (templates : TemplateSet) (records : List (String × List FailedCheck)) : Outcome :=
  records.foldl (fun o r => o.record templates r.1 r.2) success

theorem failures_ofRecords (templates : TemplateSet)
    (records : List (String × List FailedCheck)) :
    (ofRecords templates records).failures
      = records.flatMap fun r => r.2.map (failure templates r.1) := by
  have h (o : Outcome) :
      (records.foldl (fun o r => o.record templates r.1 r.2) o).failures
        = o.failures ++ records.flatMap fun r => r.2.map (failure templates r.1) := by
    induction records generalizing o with
    | nil => simp
    | cons r records ih => simp [ih, failures_record]
  simpa [ofRecords, success] using h success

end Outcome

end Conform
