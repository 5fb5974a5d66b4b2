import RecordQuery.Json.Basic
import RecordQuery.Numeric.Shortest

/-!
# Writing JSON

A value as text, either without any blanks or with one entry a line and two blanks of indent for
each level. Entries are written in the order in which the object holds them.
-/

namespace RecordQuery

def JsonNumber.text : JsonNumber → String
  | integer n _ _ => Digits.intText n
  | float x => x.dataText

namespace Json

/-- A control character by its number, in four hexadecimal digits. -/
def controlEscape (c : Char) : List Char :=
  let digits := Nat.toDigits 16 c.toNat
  ['\\', 'u'] ++ List.replicate (4 - digits.length) '0' ++ digits

def escapeChar (c : Char) : List Char :=
  if c = '"' ∨ c = '\\' then ['\\', c]
  else if c.toNat = 8 then ['\\', 'b']
  else if c.toNat = 12 then ['\\', 'f']
  else if c = '\n' then ['\\', 'n']
  else if c = '\r' then ['\\', 'r']
  else if c = '\t' then ['\\', 't']
  else if c.toNat < 0x20 then controlEscape c
  else [c]

def stringText (s : String) : String :=
  String.ofList ('"' :: s.toList.flatMap escapeChar ++ ['"'])

mutual

/-- The text of a value without blanks. -/
def compact : Json → String
  | null => "null"
  | bool b => if b then "true" else "false"
  | number n => n.text
  | string s => stringText s
  | array values => "[" ++ String.intercalate "," (compactList values) ++ "]"
  | object entries => "\x7b" ++ String.intercalate "," (compactEntries entries) ++ "\x7d"

def compactList : List Json → List String
  | [] => []
  | value :: rest => compact value :: compactList rest

def compactEntries : List (String × Json) → List String
  | [] => []
  | (key, value) :: rest => (stringText key ++ ":" ++ compact value) :: compactEntries rest

end

def indent (level : Nat) : String := "\n" ++ String.ofList (List.replicate (2 * level) ' ')

/-- The parts one to a line between brackets; the brackets alone when there is no part. -/
def block (first last : String) (level : Nat) (parts : List String) : String :=
  if parts.isEmpty then first ++ last
  else
    first ++ indent (level + 1) ++ String.intercalate ("," ++ indent (level + 1)) parts ++
      indent level ++ last

mutual

/-- The text of a value that stands at a level, one entry a line. -/
def prettyAt (level : Nat) : Json → String
  | array values => block "[" "]" level (prettyList (level + 1) values)
  | object entries => block "\x7b" "\x7d" level (prettyEntries (level + 1) entries)
  | null => "null"
  | bool b => if b then "true" else "false"
  | number n => n.text
  | string s => stringText s

def prettyList (level : Nat) : List Json → List String
  | [] => []
  | value :: rest => prettyAt level value :: prettyList level rest

def prettyEntries (level : Nat) : List (String × Json) → List String
  | [] => []
  | (key, value) :: rest =>
    (stringText key ++ ": " ++ prettyAt level value) :: prettyEntries level rest

end

def pretty (value : Json) : String := prettyAt 0 value

end Json

end RecordQuery
