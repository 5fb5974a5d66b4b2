import RecordQuery.Glob
import RecordQuery.Operator
import RecordQuery.Text.Lower
import RecordQuery.Value

/-!
# Conditions

What a parameter value asks of a field: an operator and its operands, read from the text of the
value and the type of the field alone.

* Text and dates: `v`, `v*`, `*v`, `*v*`, and `a*b` with stars inside. Case does not count.
* Numbers: `n`, `>=n`, `<=n`, `>n`, `<n`, and `low-high`.
* Booleans: `true`, `1`, `yes` and `false`, `0`, `no`.
-/

namespace RecordQuery

inductive Operand where
  | text (s : String)
  | number (n : Number)
  | bool (b : Bool)
deriving DecidableEq

def Operand.same : Operand → Operand → Bool
  | text s, text t => s == t
  | number m, number n => m.same n
  | bool a, bool b => a == b
  | _, _ => false

inductive Condition where
  | exact (operand : Operand)
  | startsWith (part : String)
  | endsWith (part : String)
  | contains (part : String)
  | wildcard (glob : Glob)
  | atLeast (n : Number)
  | atMost (n : Number)
  | above (n : Number)
  | below (n : Number)
  | within (low high : Number)
deriving DecidableEq

namespace Condition

def operator : Condition → Operator
  | exact _ => .exact
  | startsWith _ => .startsWith
  | endsWith _ => .endsWith
  | contains _ => .contains
  | wildcard _ => .wildcard
  | atLeast _ => .atLeast
  | atMost _ => .atMost
  | above _ => .above
  | below _ => .below
  | within .. => .within

def isTextual : Condition → Bool
  | exact (.text _) => true
  | exact _ => false
  | condition => condition.operator.appliesToText

/-! ## Reading -/

/-- A text with no star is meant exactly; stars at the ends only ask for a part; a star inside
asks for a pattern. -/
def ofText [RegexLibrary] (raw : String) : Except Rejection Condition :=
  let cs := raw.toList
  if '*' ∉ cs then .ok (exact (.text raw))
  else
    let core := ((cs.dropWhile (· = '*')).reverse.dropWhile (· = '*')).reverse
    if '*' ∈ core then (Glob.compile raw).map wildcard
    else
      let part := String.ofList core
      match cs.head? == some '*', cs.getLast? == some '*' with
      | true, true => .ok (contains part)
      | true, false => .ok (endsWith part)
      | false, true => .ok (startsWith part)
      | false, false => .ok (exact (.text part))

/-- The first hyphen behind the first character that has a number on either side. The hyphen in
first place is a sign. -/
def splitRange? (type : FieldType) : (before after : List Char) → Option (Number × Number)
  | _, [] => none
  | before, c :: after =>
    let found :=
      if c = '-' ∧ before ≠ [] then
        (type.readNumber? before.reverse).bind fun low =>
          (type.readNumber? after).map fun high => (low, high)
      else none
    match found with
    | some range => some range
    | none => splitRange? type (c :: before) after

def ofSign (operator : Operator) (n : Number) : Condition :=
  match operator with
  | .atLeast => atLeast n
  | .atMost => atMost n
  | .above => above n
  | _ => below n

def ofNumberText (type : FieldType) (raw : String) : Except Rejection Condition :=
  let cs := Text.trimChars raw.toList
  let read : Option Condition :=
    match Operator.splitSign? cs with
    | some (operator, rest) => (type.readNumber? rest).map (ofSign operator)
    | none =>
      match splitRange? type [] cs with
      | some (low, high) => some (within low high)
      | none => (type.readNumber? cs).map fun n => exact (.number n)
  match read with
  | some condition => .ok condition
  | none => .error (.malformedValue raw type)

def readBool? (raw : String) : Option Bool :=
  let word := Text.asciiLower (Text.trim raw)
  if word ∈ ["true", "1", "yes"] then some true
  else if word ∈ ["false", "0", "no"] then some false
  else none

/-- Reads the value of a parameter for a field of this type. A relation has no conditions. -/
def classify [RegexLibrary] (type : FieldType) (raw : String) : Except Rejection Condition :=
  match type with
  | .text | .datetime => ofText raw
  | .integer | .float | .decimal => ofNumberText type raw
  | .boolean =>
    match readBool? raw with
    | some b => .ok (exact (.bool b))
    | none => .error (.malformedValue raw type)
  | .relation _ => .error (.malformedValue raw type)

/-! ## Matching -/

/-- The list holds the part as a run of neighbours. -/
def hasRun (part : List Char) : List Char → Bool
  | [] => part.isEmpty
  | c :: text => part.isPrefixOf (c :: text) || hasRun part text

def compares (operator : Operator) (value operand : Number) : Bool :=
  match value.compare operand with
  | some order => operator.holds order
  | none => false

/-- Whether the condition holds of a value. A missing value or one of another kind never matches. -/
def holds : Condition → Value → Bool
  | exact (.text part), .text s => Text.lower s == Text.lower part
  | startsWith part, .text s =>
    (Text.lowerChars part.toList).isPrefixOf (Text.lowerChars s.toList)
  | endsWith part, .text s => (Text.lowerChars part.toList).isSuffixOf (Text.lowerChars s.toList)
  | contains part, .text s => hasRun (Text.lowerChars part.toList) (Text.lowerChars s.toList)
  | wildcard glob, .text s => glob.isMatch s
  | exact (.number n), .number v => compares .exact v n
  | atLeast n, .number v => compares .atLeast v n
  | atMost n, .number v => compares .atMost v n
  | above n, .number v => compares .above v n
  | below n, .number v => compares .below v n
  | within low high, .number v => compares .atLeast v low && compares .atMost v high
  | exact (.bool b), .bool v => v == b
  | _, _ => false

/-- Equality of conditions: numbers as `Number.same` has it, patterns by their source. -/
def same : Condition → Condition → Bool
  | exact a, exact b => a.same b
  | startsWith s, startsWith t => s == t
  | endsWith s, endsWith t => s == t
  | contains s, contains t => s == t
  | wildcard g, wildcard h => g.source == h.source
  | atLeast m, atLeast n => m.same n
  | atMost m, atMost n => m.same n
  | above m, above n => m.same n
  | below m, below n => m.same n
  | within a b, within c d => a.same c && b.same d
  | _, _ => false

/-! ## In the data format -/

def Operand.toJson : Operand → Json
  | .text s => .string s
  | .number n => n.toJson
  | .bool b => .bool b

def operandJson : Condition → Json
  | exact operand => Operand.toJson operand
  | startsWith part | endsWith part | contains part => .string part
  | wildcard glob => .string glob.regex
  | atLeast n | atMost n | above n | below n => n.toJson
  | within low high => .array [low.toJson, high.toJson]

def toJson (condition : Condition) : Json :=
  .object [("op", .string condition.operator.tag), ("operand", condition.operandJson)]

end Condition

end RecordQuery
