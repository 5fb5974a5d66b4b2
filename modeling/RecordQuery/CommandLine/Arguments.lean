/-!
# Arguments of the command line

The words of a command line as a command and the options that go with it. An option may stand
before the command or behind it, once in each place; the one behind it counts.
-/

namespace RecordQuery.CommandLine

inductive Command where
  | list (query : String)
  | get (id : String)
  | create (payload : String)
  | update (id payload : String)
  | patch (id payload : String)
  | delete (id : String)
  | explain (query : String)
deriving DecidableEq, Repr

structure Options where
  config : Option String
  data : Option String
  baseUrl : Option String
deriving DecidableEq, Repr

def Options.none : Options := ⟨.none, .none, .none⟩

/-- The options of two places, those of the first counting more. -/
def Options.or (first second : Options) : Options :=
  ⟨first.config.or second.config, first.data.or second.data, first.baseUrl.or second.baseUrl⟩

structure Invocation where
  options : Options
  command : Command
deriving DecidableEq, Repr

inductive Stop where
  | usage
  | help
  | version
deriving DecidableEq, Repr

def defaultBaseUrl : String := "http://localhost/items/"

inductive OptionName where
  | config
  | data
  | baseUrl
deriving DecidableEq, Repr

namespace Options

/-- Sets an option that has not been set. The name of a file is not empty. -/
def set (options : Options) (name : OptionName) (value : String) : Except Stop Options :=
  match name with
  | .config =>
    if options.config.isSome || value.isEmpty then .error .usage
    else .ok { options with config := some value }
  | .data =>
    if options.data.isSome || value.isEmpty then .error .usage
    else .ok { options with data := some value }
  | .baseUrl =>
    if options.baseUrl.isSome then .error .usage else .ok { options with baseUrl := some value }

end Options

def isOption (word : String) : Bool := word.toList.head? == some '-' && word != "-"

/-- The value of an option: the next word, unless that is an option itself. -/
def nextValue : List String → Except Stop (String × List String)
  | word :: rest => if isOption word then .error .usage else .ok (word, rest)
  | [] => .error .usage

/-- An option spelled out, its value behind an equals sign or in the next word. -/
def readLong (isTop : Bool) (word : List Char) (rest : List String) :
    Except Stop (OptionName × String × List String) :=
  let spelling := String.ofList (word.takeWhile (· ≠ '='))
  let attached := (word.dropWhile (· ≠ '=')).drop 1
  let hasValue := word.contains '='
  let valued (name : OptionName) : Except Stop (OptionName × String × List String) :=
    if hasValue then .ok (name, String.ofList attached, rest)
    else (nextValue rest).map fun (value, rest) => (name, value, rest)
  match spelling with
  | "config" => valued .config
  | "data" => valued .data
  | "base-url" => valued .baseUrl
  | "help" => if hasValue then .error .usage else .error .help
  | "version" => if hasValue || !isTop then .error .usage else .error .version
  | _ => .error .usage

/-- An option of one letter, its value right behind it or in the next word. -/
def readShort (isTop : Bool) (word : List Char) (rest : List String) :
    Except Stop (OptionName × String × List String) :=
  let valued (name : OptionName) (attached : List Char) :
      Except Stop (OptionName × String × List String) :=
    match attached with
    | [] => (nextValue rest).map fun (value, rest) => (name, value, rest)
    | '=' :: value => .ok (name, String.ofList value, rest)
    | value => .ok (name, String.ofList value, rest)
  match word with
  | 'c' :: attached => valued .config attached
  | 'd' :: attached => valued .data attached
  | 'h' :: _ => .error .help
  | 'V' :: _ => if isTop then .error .version else .error .usage
  | _ => .error .usage

def readOption (isTop : Bool) (word : String) (rest : List String) :
    Except Stop (OptionName × String × List String) :=
  match word.toList with
  | '-' :: '-' :: spelling => readLong isTop spelling rest
  | '-' :: letters => readShort isTop letters rest
  | _ => .error .usage

/-- The command of a name with its values; a query may be left out. -/
def makeCommand (name : String) (values : List String) : Except Stop Command :=
  match name, values with
  | "list", [] => .ok (.list "")
  | "list", [query] => .ok (.list query)
  | "get", [id] => .ok (.get id)
  | "create", [payload] => .ok (.create payload)
  | "update", [id, payload] => .ok (.update id payload)
  | "patch", [id, payload] => .ok (.patch id payload)
  | "delete", [id] => .ok (.delete id)
  | "explain", [] => .ok (.explain "")
  | "explain", [query] => .ok (.explain query)
  | _, _ => .error .usage

def commandNames : List String :=
  ["list", "get", "create", "update", "patch", "delete", "explain"]

/-- The words behind the name of a command: values, and options between them. Behind two hyphens
every word is a value. -/
def readValues : (fuel : Nat) → Options → (values : List String) → List String →
    Except Stop (Options × List String)
  | 0, _, _, _ => .error .usage
  | _ + 1, options, values, [] => .ok (options, values)
  | fuel + 1, options, values, word :: rest =>
    if word = "--" then .ok (options, values ++ rest)
    else if isOption word then
      match readOption false word rest with
      | .ok (name, value, rest) =>
        (options.set name value).bind fun options => readValues fuel options values rest
      | .error stop => .error stop
    else readValues fuel options (values ++ [word]) rest

def readWords : (fuel : Nat) → Options → List String → Except Stop Invocation
  | 0, _, _ => .error .usage
  | _ + 1, _, [] => .error .usage
  | fuel + 1, options, word :: rest =>
    if word = "--" then .error .usage
    else if isOption word then
      match readOption true word rest with
      | .ok (name, value, rest) =>
        (options.set name value).bind fun options => readWords fuel options rest
      | .error stop => .error stop
    else if word = "help" then
      match rest with
      | [] => .error .help
      | [topic] => .error (if topic = "help" ∨ commandNames.contains topic then .help else .usage)
      | _ => .error .usage
    else if commandNames.contains word then
      (readValues (rest.length + 1) .none [] rest).bind fun (inner, values) =>
        (makeCommand word values).map fun command => ⟨inner.or options, command⟩
    else .error .usage

def Invocation.ofWords (words : List String) : Except Stop Invocation :=
  readWords (words.length + 1) .none words

end RecordQuery.CommandLine
