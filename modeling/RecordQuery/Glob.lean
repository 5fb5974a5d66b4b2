import RecordQuery.Rejection
import RecordQuery.Text.Folding

/-!
# Wildcard patterns

A pattern is text in which each star stands for any run of characters, the empty run included. It
has to match a whole text; other characters match themselves up to case.

A pattern is handed to a library as a regular expression. The library may refuse it, with a message
of its own, because it would need too large a matcher. Which expressions it refuses is its own
affair, so that it is a parameter of everything that reads patterns.
-/

namespace RecordQuery

/-- The choice that a library of regular expressions leaves open. -/
class RegexLibrary where
  /-- The message with which an expression is refused, if it is. -/
  refusal? : (expression : String) → Option String

/-- A library that refuses nothing. -/
abbrev RegexLibrary.permissive : RegexLibrary := ⟨fun _ => none⟩

structure Glob where
  source : String
deriving DecidableEq

namespace Glob

/-- The text between the stars. -/
def segments (source : List Char) : List (List Char) := source.splitOn '*'

/-! ## As a regular expression -/

/-- The characters that a regular expression reads as signs. -/
def isSign (c : Char) : Bool :=
  c ∈ ['\\', '.', '+', '*', '?', '(', ')', '|', '[', ']', '\x7b', '\x7d', '^', '$', '#', '&',
    '-', '~']

def escapeChar (c : Char) : List Char := if isSign c then ['\\', c] else [c]

def regexChars (literals : List (List Char)) : List Char :=
  '^' :: List.intercalate ['.', '*'] (literals.map fun cs => cs.flatMap escapeChar) ++ ['$']

/-- The pattern as an anchored regular expression. -/
def regex (glob : Glob) : String := String.ofList (regexChars (segments glob.source.toList))

/-- The pattern with this source. -/
def compile [RegexLibrary] (source : String) : Except Rejection Glob :=
  let glob : Glob := ⟨source⟩
  match RegexLibrary.refusal? glob.regex with
  | some message => .error (.pattern message)
  | none => .ok glob

/-! ## Matching -/

/-- The text behind a prefix, up to case. -/
def dropPrefix? : (literal text : List Char) → Option (List Char)
  | [], text => some text
  | _ :: _, [] => none
  | c :: literal, d :: text =>
    if Text.sameUpToCase c d then dropPrefix? literal text else none

/-- The text behind the first place where the literal stands, up to case. -/
def dropFirst? (literal : List Char) : List Char → Option (List Char)
  | [] => dropPrefix? literal []
  | d :: text =>
    match dropPrefix? literal (d :: text) with
    | some rest => some rest
    | none => dropFirst? literal text

def hasSuffix (literal text : List Char) : Bool :=
  literal.length ≤ text.length &&
    (dropPrefix? literal (text.drop (text.length - literal.length))).isSome

/-- The text behind a star is a run, a literal, a run, and so on, up to the last literal, which
ends it. Taking the first place of each literal leaves the most for those behind it. -/
def matchesBehindStar : (literals : List (List Char)) → (text : List Char) → Bool
  | [], _ => false
  | [last], text => hasSuffix last text
  | literal :: rest, text =>
    match dropFirst? literal text with
    | some text => matchesBehindStar rest text
    | none => false

/-- The segments, with any run between two of them, make up the text. -/
def matchesSegments : (literals : List (List Char)) → (text : List Char) → Bool
  | [], _ => false
  | [only], text => dropPrefix? only text == some []
  | first :: rest, text =>
    match dropPrefix? first text with
    | some text => matchesBehindStar rest text
    | none => false

def isMatch (glob : Glob) (text : String) : Bool :=
  matchesSegments (segments glob.source.toList) text.toList

end Glob

end RecordQuery
