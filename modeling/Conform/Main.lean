import Conform.CommandLine
/-!
The program: its arguments and the files on disk go to `CommandLine.run`, and what that answers is
written out.
-/

namespace Conform.CommandLine

/-- The number of a system error. Some calls give it with a minus. -/
def errorNumber (code : UInt32) : UInt32 := if code < 0x80000000 then code else 0 - code

def readError : IO.Error → ReadError
  | .noFileOrDirectory .. => .notFound
  | .inappropriateType _ code _ =>
    if errorNumber code = 20 then .notADirectory else .isDirectory
  | .invalidArgument _ code details =>
    if errorNumber code = 36 then .nameTooLong else .other details
  | .permissionDenied .. => .other "Permission denied (os error 13)"
  | e => .other (toString e)

def readFile (path : String) : IO (Except ReadError String) := do
  try
    let bytes ← IO.FS.readBinFile path
    match String.fromUTF8? bytes with
    | some text => return .ok text
    | none => return .error .notText
  catch e => return .error (readError e)

def readFiles : List String → IO (List (String × Except ReadError String))
  | [] => return []
  | path :: paths => do return (path, ← readFile path) :: (← readFiles paths)

def Files.ofContents (contents : List (String × Except ReadError String)) : Files := fun path =>
  (contents.lookup path).getD (.error .notFound)

end Conform.CommandLine

def main (args : List String) : IO UInt32 := do
  let contents ← Conform.CommandLine.readFiles args
  let answer := Conform.CommandLine.run (Conform.CommandLine.Files.ofContents contents) args
  (← IO.getStdout).putStr answer.stdout
  (← IO.getStderr).putStr answer.stderr
  return answer.exit.toUInt32
