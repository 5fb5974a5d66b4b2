import RecordQuery.Folder
import RecordQuery.Numeric.Digits
import RecordQuery.Settings
import RecordQuery.Settings.Document

/-!
# Reading settings

Settings from a configuration document. What the document does not name keeps its default; names
that are not known, names given twice and values of another kind are refused.
-/

namespace RecordQuery.Settings

inductive ReadError where
  /-- The document could not be loaded. -/
  | load (path : String) (problem : FileProblem)
  /-- The document is not one of settings. -/
  | parse
  | invalid (problem : Problem)
deriving DecidableEq, Repr

def ReadError.message : ReadError → String
  | load path problem => "failed to read " ++ path ++ ": " ++ problem.message
  | parse => "invalid configuration: the document does not hold settings"
  | invalid problem => problem.message

namespace Scalar

/-- The texts that stand for nothing. -/
def isNull (text : String) : Bool := text ∈ ["~", "null", "Null", "NULL"]

def standardTag (name : String) : Option String := some ("tag:yaml.org,2002:" ++ name)

/-- A text, or nothing where a plain scalar is empty or stands for nothing. Behind a tag it stands
for nothing only if the tag says so, and must then. -/
def optionalText? (scalar : Scalar) : Option (Option String) :=
  if scalar.style ≠ .plain then some (some scalar.text)
  else if scalar.tag = standardTag "null" then
    if isNull scalar.text then some none else none
  else if scalar.tag.isSome then some (some scalar.text)
  else if scalar.text.isEmpty || isNull scalar.text then some none
  else some (some scalar.text)

/-- The text of a scalar that may stand for something else: a plain one, or lines behind the
standard tag of this name. -/
def meaning? (scalar : Scalar) (tag : String) : Option String :=
  if scalar.style = .plain ∨ (scalar.style = .literal ∧ scalar.tag = standardTag tag) then
    some scalar.text
  else none

def bool? (scalar : Scalar) : Option Bool :=
  (scalar.meaning? "bool").bind fun text =>
    if text ∈ ["true", "True", "TRUE"] then some true
    else if text ∈ ["false", "False", "FALSE"] then some false
    else none

/-- The number that digits of a base stand for, one digit at least. -/
def readBase? (base : Nat) (cs : List Char) : Option Nat :=
  if cs.isEmpty then none
  else cs.foldlM (fun n c => (Document.hexValue? c).bind fun d =>
    if d < base then some (n * base + d) else none) 0

/-- A whole number: decimal without leading zeros, hexadecimal behind `0x`, octal behind `0o` or
binary behind `0b`, with or without a plus sign. -/
def readWhole? (cs : List Char) : Option Nat :=
  let body := match cs with
    | '+' :: rest => rest
    | _ => cs
  match body with
  | '0' :: 'x' :: rest => readBase? 16 rest
  | '0' :: 'o' :: rest => readBase? 8 rest
  | '0' :: 'b' :: rest => readBase? 2 rest
  | '0' :: _ :: _ => none
  | _ => readBase? 10 body

def nat? (scalar : Scalar) : Option Nat :=
  ((scalar.meaning? "int").bind fun text => readWhole? text.toList).filter fun n => n < UInt64.size

end Scalar

namespace Node

def scalar? : Node → Option Scalar
  | scalar s => some s
  | sequence _ => none

/-- The text of a scalar, whatever else it may stand for. -/
def text? (node : Node) : Option String := node.scalar?.map Scalar.text

def optionalText? (node : Node) : Option (Option String) := node.scalar?.bind Scalar.optionalText?

def bool? (node : Node) : Option Bool := node.scalar?.bind Scalar.bool?

def nat? (node : Node) : Option Nat := node.scalar?.bind Scalar.nat?

/-- A sequence of texts; nothing at all is a sequence without items. -/
def texts? : Node → Option (List String)
  | sequence items => some (items.map Scalar.text)
  | scalar s => if s.style = .plain ∧ s.text = "" then some [] else none

end Node

def put? (settings : Settings) (name : String) (node : Node) : Option Settings :=
  match name with
  | "reserved_params" => node.texts?.map fun texts => { settings with reservedParams := texts }
  | "page_param" => node.text?.map fun text => { settings with pageParam := text }
  | "page_size_param" => node.text?.map fun text => { settings with pageSizeParam := text }
  | "ordering_param" => node.text?.map fun text => { settings with orderingParam := text }
  | "default_page_size" => node.nat?.map fun n => { settings with defaultPageSize := n }
  | "max_page_size" => node.nat?.map fun n => { settings with maxPageSize := n }
  | "default_ordering" =>
    node.optionalText?.map fun text => { settings with defaultOrdering := text }
  | "paginate" => node.bool?.map fun b => { settings with paginate := b }
  | _ => none

def putAll? : Settings → (seen : List String) → List (String × Node) → Option Settings
  | settings, _, [] => some settings
  | settings, seen, (name, node) :: rest =>
    if seen.contains name then none
    else (settings.put? name node).bind fun settings => putAll? settings (name :: seen) rest

/-- The settings with the problem they have, if they have one. -/
def checked (settings : Settings) : Except ReadError Settings :=
  match settings.problem? with
  | some problem => .error (.invalid problem)
  | none => .ok settings

def ofText (text : String) : Except ReadError Settings :=
  if Text.isBlankText text then checked standard
  else
    match (Document.read? text).bind fun entries => putAll? standard [] entries with
    | some settings => checked settings
    | none => .error .parse

def ofFile (path : String) (content : FileContent) : Except ReadError Settings :=
  match content with
  | .ok text => ofText text
  | .error problem => .error (.load path problem)

end RecordQuery.Settings
