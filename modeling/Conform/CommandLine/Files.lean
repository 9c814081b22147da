/-!
Files as the command line sees them: why one cannot be read, and what a path says about its format.
-/

namespace Conform.CommandLine

inductive ReadError where
  | notFound
  | notADirectory
  | isDirectory
  | nameTooLong
  | notText
  | other (text : String)
  deriving DecidableEq, Repr

def ReadError.message : ReadError → String
  | notFound => "No such file or directory (os error 2)"
  | notADirectory => "Not a directory (os error 20)"
  | isDirectory => "Is a directory (os error 21)"
  | nameTooLong => "File name too long (os error 36)"
  | notText => "stream did not contain valid UTF-8"
  | other text => text

abbrev Files := String → Except ReadError String

def splitPath : List Char → List (List Char)
  | [] => [[]]
  | c :: cs =>
    if c = '/' then [] :: splitPath cs
    else
      match splitPath cs with
      | [] => [[c]]
      | part :: parts => (c :: part) :: parts

def steps (path : String) : List (List Char) :=
  (splitPath path.toList).filter fun part => !part.isEmpty && part != ['.']

def fileName? (path : String) : Option (List Char) :=
  (steps path).getLast?.filter fun part => part != ['.', '.']

def extension? (path : String) : Option String := do
  let name ← fileName? path
  let extension := (name.reverse.takeWhile (· != '.')).reverse
  if extension.length + 1 < name.length then some (String.ofList extension) else none

end Conform.CommandLine
