import RecordQuery.CommandLine.Run

/-!
# The program

Reads the files that a command line names, runs it, writes the data file and prints the answer. No
pattern is refused for its size.
-/

namespace RecordQuery

open CommandLine

def readContent (path : String) : IO FileContent := do
  try
    return .ok (← IO.FS.readFile path)
  catch problem =>
    match problem with
    | .noFileOrDirectory .. => return .error .absent
    | .inappropriateType _ 20 _ => return .error .notDirectory
    | .inappropriateType _ 21 _ => return .error .isDirectory
    | _ => return .error (.unreadable (toString problem))

def readFiles (options : Options) : IO (List (String × FileContent)) :=
  (options.config.toList ++ options.data.toList).mapM fun path => do
    return (path, ← readContent path)

def perform (outcome : Run) : IO UInt32 := do
  if let some (path, content) := outcome.saved then
    try
      IO.FS.writeFile path content
    catch _ =>
      IO.eprintln ("Error: failed to write " ++ path)
      return 1
  if let some message := outcome.error then
    IO.eprintln ("Error: " ++ message)
  IO.print outcome.stdout
  return UInt32.ofNat outcome.exitCode

end RecordQuery

def main (words : List String) : IO UInt32 := do
  match RecordQuery.CommandLine.Invocation.ofWords words with
  | .error stop => RecordQuery.perform (.refused stop)
  | .ok invocation =>
    let contents ← RecordQuery.readFiles invocation.options
    let files (path : String) := (contents.lookup path).getD (.error .absent)
    have : RecordQuery.RegexLibrary := .permissive
    RecordQuery.perform (invocation.run files)
