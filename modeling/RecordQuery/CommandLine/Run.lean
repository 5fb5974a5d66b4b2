import RecordQuery.Catalog.Basic
import RecordQuery.CommandLine.Arguments
import RecordQuery.Settings.Reading

/-!
# Running a command

A command line against the files it names: what is printed, how the run ends, and the text to
write into the data file. A command that changes the catalog writes the file when it succeeds;
every other run leaves it as it is.
-/

namespace RecordQuery.CommandLine

structure Run where
  exitCode : Nat
  stdout : String
  /-- The message of a run that stopped. -/
  error : Option String
  /-- The name of a file and the text to write into it before anything is printed. -/
  saved : Option (String × String)
  events : List Event

namespace Run

def stopped (message : String) : Run := ⟨1, "", some message, none, []⟩

def refused (stop : Stop) : Run := ⟨if stop = .usage then 2 else 0, "", none, none, []⟩

end Run

def settingsOf (files : String → FileContent) (options : Options) :
    Except String Settings :=
  match options.config with
  | none => .ok .standard
  | some path => (Settings.ofFile path (files path)).mapError Settings.ReadError.message

/-- The items of the data file, or the sample where nothing stands under its path. -/
def itemsOf (files : String → FileContent) (data : Option String) :
    Except String (List Catalog.Item) :=
  match data with
  | none => .ok Catalog.sample
  | some path =>
    match files path with
    | .error problem =>
      if problem.isPresent then .error ("failed to read " ++ path) else .ok Catalog.sample
    | .ok content =>
      match Catalog.Snapshot.read? content with
      | some items => .ok items
      | none => .error ("failed to parse " ++ path)

variable [RegexLibrary]

def explanation (endpoint : Endpoint (Table Catalog.Item) UInt64) (query : QueryString) : Json :=
  let selection := endpoint.selection query
  .object [
    ("satisfiable", .bool selection.isSatisfiable),
    ("filters", selection.toJson),
    ("ordering", .array ((endpoint.sortKeys query).map SortKey.toJson)),
    ("page", (Page.ofQuery query endpoint.settings.page).toJson)]

def printed (value : Json) : String := value.pretty ++ "\n"

/-- The run that shows a response, after writing the catalog where that is due. -/
def Run.ofHandled (catalog : Catalog) (data : Option String) (writes : Bool)
    (handled : Handled (Table Catalog.Item)) : Run :=
  let success := handled.response.status.isSuccess
  let after : Catalog := { catalog with table := handled.state }
  let saved := if writes && success then data.map fun path => (path, after.snapshot) else none
  let events :=
    match saved with
    | some (path, _) => handled.events ++ [.snapshotSaved path after.items.length]
    | none => handled.events
  ⟨if success then 0 else 1, printed handled.response.toJson, none, saved, events⟩

def execute (catalog : Catalog) (options : Options) (command : Command) : Run :=
  let endpoint := catalog.endpoint
  let base := options.baseUrl.getD defaultBaseUrl
  let writing (payload : String) (handle : Json → Table Catalog.Item → Handled _) : Run :=
    match Json.parse? payload with
    | some value => .ofHandled catalog options.data true (handle value catalog.table)
    | none => .stopped "payload is not valid JSON"
  match command with
  | .list query =>
    .ofHandled catalog options.data false
      (endpoint.list base (QueryString.parse query) catalog.table)
  | .get id => .ofHandled catalog options.data false (endpoint.retrieve id catalog.table)
  | .create payload => writing payload endpoint.create
  | .update id payload => writing payload (endpoint.update id)
  | .patch id payload => writing payload (endpoint.partialUpdate id)
  | .delete id => .ofHandled catalog options.data true (endpoint.destroy id catalog.table)
  | .explain query =>
    let params := QueryString.parse query
    ⟨0, printed (explanation endpoint params), none, none,
      endpoint.filterEvents params ++ endpoint.sortEvents params⟩

def Invocation.run (files : String → FileContent) (invocation : Invocation) : Run :=
  let options := invocation.options
  match settingsOf files options with
  | .error message => .stopped message
  | .ok settings =>
    match itemsOf files options.data with
    | .error message => .stopped message
    | .ok items =>
      match Catalog.ofItems items settings with
      | .error failure => .stopped failure.message
      | .ok catalog => execute catalog options invocation.command

def run (files : String → FileContent) (words : List String) : Run :=
  match Invocation.ofWords words with
  | .ok invocation => invocation.run files
  | .error stop => .refused stop

end RecordQuery.CommandLine
