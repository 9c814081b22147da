import Conform.CommandLine.Files
/-!
Disks in memory, and the walk of a path through one. Each part of a path is looked up where the
parts before it have led, so of several faults in a path the leftmost is the error: a part behind a
file fails before its name is looked at, and a part behind a missing directory before both.
-/

namespace Conform.CommandLine

abbrev FileName := List Char

abbrev Place := List FileName

inductive Item where
  | file (text : String)
  | directory

structure Disk where
  files : List (Place × String)
  directories : List Place
  workingDirectory : Place

namespace Disk

def nameLimit : Nat := 255

def pathLimit : Nat := 4095

def item? (disk : Disk) (place : Place) : Option Item :=
  match (disk.files.filter fun f => f.1 == place).getLast? with
  | some f => some (.file f.2)
  | none =>
    let known := disk.workingDirectory :: disk.directories ++ disk.files.map Prod.fst
    if known.any place.isPrefixOf then some .directory else none

/-- The place that further parts lead to. Every part, the empty one behind a slash included, needs a
directory to start from; the root is above itself. -/
def walk (disk : Disk) (place : Place) : List FileName → Except ReadError Place
  | [] => .ok place
  | part :: parts =>
    match disk.item? place with
    | none => .error .notFound
    | some (.file _) => .error .notADirectory
    | some .directory =>
      if part.isEmpty || part == ['.'] then walk disk place parts
      else if part == ['.', '.'] then walk disk place.dropLast parts
      else if nameLimit < (String.ofList part).utf8ByteSize then .error .nameTooLong
      else walk disk (place ++ [part]) parts

def read (disk : Disk) : Files := fun path =>
  if path.isEmpty then .error .notFound
  else if pathLimit < path.utf8ByteSize then .error .nameTooLong
  else do
    let start := if path.startsWith "/" then [] else disk.workingDirectory
    match disk.item? (← disk.walk start (splitPath path.toList)) with
    | some (.file text) => .ok text
    | some .directory => .error .isDirectory
    | none => .error .notFound

def rootDirectories : List String :=
  ["bin", "dev", "etc", "home", "lib", "opt", "proc", "root", "run", "sbin", "srv", "sys", "tmp",
    "usr", "var"]

/-- A working directory with nothing but the given files, among the temporary ones of a system. Its
own name is the empty one, which no path spells; besides it only the null device is known, and that
is an empty file. -/
def ofList (entries : List (String × String)) : Disk :=
  let workingDirectory := ["tmp".toList, []]
  ⟨(steps "/dev/null", "") :: entries.map fun e => (workingDirectory ++ steps e.1, e.2),
    rootDirectories.map fun name => [name.toList], workingDirectory⟩

end Disk

end Conform.CommandLine
