import Conform.CommandLine.Arguments
import Conform.CommandLine.Files
import Conform.Message.Codec
import Conform.Outcome.Codec
import Conform.Schema.Declaration.Codec
import Conform.Validation
/-!
The command line: its answer to a list of arguments, given the files that it can read.
-/

namespace Conform.CommandLine

def programName : String := "paramshape"

def version : String := "0.1.0"

structure Answer where
  exit : Nat
  stdout : String
  stderr : String
  deriving DecidableEq, Repr

def lines (texts : List String) : String := String.join (texts.map (· ++ "\n"))

def usage : String :=
  lines ["Usage: " ++ programName ++ " <command> [options]",
    "",
    "Commands:",
    "  check <schema> <input> [options]  Validate a JSON input file",
    "  predicates                        List available predicates",
    "  version                           Show version",
    "  help                              Show this help message",
    "",
    "Check options:",
    "  --json             Print the full result as JSON",
    "  --style <style>    Input style: params (default) or json",
    "  --messages <file>  Extra message templates (TOML)",
    "",
    "Schemas are TOML or JSON files with a [[keys]] list.",
    "Exit status: 0 valid, 1 invalid, 2 error."]

inductive LoadError where
  | unreadable (e : ReadError)
  | malformed

inductive CheckError where
  | arguments (e : ArgumentError)
  | schema (path : String) (format : TextFormat) (e : LoadError)
  | messages (path : String) (e : LoadError)
  | compile (e : SchemaError)
  | unreadableInput (path : String) (e : ReadError)
  | input (path : String) (e : InputError)

/-- An error of the system is named twice: as what happened and as its cause. -/
def readFailure (e : ReadError) : String := "I/O error: " ++ e.message ++ ": " ++ e.message

def CheckError.message : CheckError → String
  | arguments e => e.message
  | schema path format e =>
    "failed to load schema " ++ path ++ ": "
      ++ (match e, format with
        | .unreadable e, _ => readFailure e
        | .malformed, .json => "JSON error: malformed document"
        | .malformed, .toml => "TOML error: malformed document")
  | messages path e =>
    "failed to load messages " ++ path ++ ": "
      ++ (match e with
        | .unreadable e => "Failed to read template file " ++ path ++ ": " ++ e.message
        | .malformed => "Malformed template file: malformed document")
  | compile e => "schema does not compile: " ++ e.message
  | unreadableInput path e => "failed to load input " ++ path ++ ": " ++ readFailure e
  | input path e => "failed to load input " ++ path ++ ": " ++ e.message

def formatOf (path : String) : TextFormat :=
  if extension? path = some "json" then .json else .toml

def loadSchema (files : Files) (path : String) : Except CheckError SchemaDeclaration :=
  match files path with
  | .error e => .error (.schema path (formatOf path) (.unreadable e))
  | .ok text =>
    match SchemaDeclaration.parse? (formatOf path) text with
    | some s => .ok s
    | none => .error (.schema path (formatOf path) .malformed)

def loadMessages (files : Files) (path : String) : Except CheckError TemplateSet :=
  match files path with
  | .error e => .error (.messages path (.unreadable e))
  | .ok text =>
    match TemplateSet.parse? text with
    | some set => .ok set
    | none => .error (.messages path .malformed)

def loadConfig (files : Files) (o : CheckOptions) : Except CheckError Config :=
  match o.messages with
  | none => .ok (Config.forStyle o.style)
  | some path =>
    match loadMessages files path with
    | .error e => .error e
    | .ok set => .ok ((Config.forStyle o.style).withTemplates set)

def loadInput (files : Files) (path : String) : Except CheckError Input :=
  match files path with
  | .error e => .error (.unreadableInput path e)
  | .ok text =>
    match Input.parse text with
    | .ok input => .ok input
    | .error e => .error (.input path e)

def validateFiles (files : Files) (o : CheckOptions) : Except CheckError Outcome := do
  let declaration ← loadSchema files o.schema
  let config ← loadConfig files o
  let schema ← (Schema.compile declaration config).mapError .compile
  let input ← loadInput files o.input
  return schema.validate input

def failureLine (key message : String) : String := "   " ++ key ++ " " ++ message

def report (o : Outcome) : String :=
  lines (o.summary
    :: o.messages.entries.flatMap fun e => e.2.map fun message => failureLine e.1 message)

def check (files : Files) (args : List String) : Answer :=
  let run : Except CheckError (CheckOptions × Outcome) := do
    let o ← (parseCheck args).mapError .arguments
    return (o, ← validateFiles files o)
  match run with
  | .ok (o, outcome) =>
    { exit := if outcome.successful then 0 else 1
      stdout := if o.json then lines [Json.pretty outcome.document] else report outcome
      stderr := "" }
  | .error e => ⟨2, "", lines ["❌ Error: " ++ e.message]⟩

def parameterText (p : Parameter) : String := p.name ++ ": " ++ p.kind.description

def predicateLine (templates : TemplateSet) (p : Predicate) : String :=
  "      • " ++ p.name ++ "(" ++ ", ".intercalate (p.parameters.map parameterText) ++ ") - "
    ++ p.description ++ " [\"" ++ (templates.template? (.predicate p.name)).getD "-" ++ "\"]"

def predicateList (registry : PredicateRegistry) (templates : TemplateSet) : String :=
  lines (["Available predicates (" ++ toString registry.size ++ " total):", ""]
    ++ registry.grouped.flatMap fun (category, predicates) =>
      ("  📁 " ++ category.title) :: predicates.map (predicateLine templates) ++ [""])

def run (files : Files) : List String → Answer
  | [] => ⟨2, usage, ""⟩
  | "check" :: args => check files args
  | "predicates" :: _ => ⟨0, predicateList PredicateRegistry.builtin TemplateSet.english, ""⟩
  | "help" :: _ | "--help" :: _ | "-h" :: _ => ⟨0, usage, ""⟩
  | "version" :: _ | "--version" :: _ | "-V" :: _ =>
    ⟨0, lines [programName ++ " " ++ version], ""⟩
  | command :: _ => ⟨2, usage, lines ["Unknown command: " ++ command]⟩

end Conform.CommandLine
