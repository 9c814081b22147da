import Conform.Input
/-!
The arguments of the command that checks an input against a schema.
-/

namespace Conform.CommandLine

structure CheckOptions where
  schema : String
  input : String
  json : Bool := false
  style : InputStyle := .params
  messages : Option String := none
  deriving DecidableEq, Repr

inductive ArgumentError where
  | missingPaths
  | missingValue (flag : String)
  | unknownStyle (style : String)
  | unknownOption (option : String)
  deriving DecidableEq, Repr

def ArgumentError.message : ArgumentError → String
  | missingPaths => "check needs a schema path and an input path"
  | missingValue flag => flag ++ " needs a value"
  | unknownStyle style => "unknown input style '" ++ style ++ "'"
  | unknownOption option => "unknown option: " ++ option

def style? : String → Except ArgumentError InputStyle
  | "params" => .ok .params
  | "json" => .ok .json
  | s => .error (.unknownStyle s)

/-- The options behind the two paths. A later option wins over an earlier one of its kind, and the
value of an option may look like an option. -/
def options (o : CheckOptions) : List String → Except ArgumentError CheckOptions
  | [] => .ok o
  | "--json" :: args => options { o with json := true } args
  | "--style" :: value :: args =>
    match style? value with
    | .ok style => options { o with style } args
    | .error e => .error e
  | "--messages" :: value :: args => options { o with messages := some value } args
  | "--style" :: [] => .error (.missingValue "--style")
  | "--messages" :: [] => .error (.missingValue "--messages")
  | arg :: _ => .error (.unknownOption arg)

def parseCheck : List String → Except ArgumentError CheckOptions
  | schema :: input :: args => options { schema, input } args
  | _ => .error .missingPaths

end Conform.CommandLine
