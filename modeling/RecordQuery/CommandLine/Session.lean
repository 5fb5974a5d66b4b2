import RecordQuery.CommandLine.Run

/-!
# Sessions

Command lines run one after the other in a folder.
-/

namespace RecordQuery.Folder

open CommandLine

/-- Runs a command line and writes what it saves. A run whose text cannot be written stops. -/
def run [RegexLibrary] (folder : Folder) (words : List String) : Run × Folder :=
  let outcome := CommandLine.run folder.find words
  match outcome.saved with
  | none => (outcome, folder)
  | some (path, text) =>
    match folder.write path text with
    | .ok after => (outcome, after)
    | .error _ => (.stopped ("failed to write " ++ path), folder)

end RecordQuery.Folder
