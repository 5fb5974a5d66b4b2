import RecordQuery.Text.Blank

/-!
# Operators

The ways in which a condition compares a value with its operands, and their names.
-/

namespace RecordQuery

inductive Operator where
  | exact
  | startsWith
  | endsWith
  | contains
  | wildcard
  | atLeast
  | atMost
  | above
  | below
  | within
deriving DecidableEq, Repr

namespace Operator

def all : List Operator :=
  [exact, startsWith, endsWith, contains, wildcard, atLeast, atMost, above, below, within]

def name : Operator → String
  | exact => "exact"
  | startsWith => "startswith"
  | endsWith => "endswith"
  | contains => "contains"
  | wildcard => "wildcard"
  | atLeast => "gte"
  | atMost => "lte"
  | above => "gt"
  | below => "lt"
  | within => "range"

def tag : Operator → String
  | startsWith => "starts_with"
  | endsWith => "ends_with"
  | wildcard => "middle_wildcard"
  | operator => operator.name

/-- The name under which a storage layer knows the comparison. Text is compared without regard
to case, which the names show. -/
def lookup (textual : Bool) : Operator → String
  | exact => if textual then "iexact" else "exact"
  | startsWith => "istartswith"
  | endsWith => "iendswith"
  | contains => "icontains"
  | wildcard => "iregex"
  | operator => operator.name

def appliesToText : Operator → Bool
  | exact | startsWith | endsWith | contains | wildcard => true
  | _ => false

def appliesToNumbers : Operator → Bool
  | exact | atLeast | atMost | above | below | within => true
  | _ => false

/-- Whether a comparison with this operator holds, given how the value stands to its one operand. -/
def holds : Operator → Ordering → Bool
  | exact, order => order == .eq
  | above, order => order == .gt
  | atLeast, order => order != .lt
  | below, order => order == .lt
  | atMost, order => order != .gt
  | _, _ => false

/-- A comparison sign at the start of the text and the text behind it without blanks around it. -/
def splitSign? : List Char → Option (Operator × List Char)
  | '>' :: '=' :: rest => some (atLeast, Text.trimChars rest)
  | '<' :: '=' :: rest => some (atMost, Text.trimChars rest)
  | '>' :: rest => some (above, Text.trimChars rest)
  | '<' :: rest => some (below, Text.trimChars rest)
  | _ => none

end Operator

end RecordQuery
