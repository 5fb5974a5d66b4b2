import RecordQuery.Numeric.Number

/-!
# Field values

What a record holds under a field name, as far as conditions and orderings can see it.
-/

namespace RecordQuery

inductive Value where
  | text (s : String)
  | number (n : Number)
  | bool (b : Bool)
  /-- No value: nothing under the name, nothing known, or a related record. -/
  | missing
deriving DecidableEq

namespace Value

def isMissing : Value → Bool
  | missing => true
  | _ => false

def text? : Value → Option String
  | text s => some s
  | _ => none

def number? : Value → Option Number
  | number n => some n
  | _ => none

def bool? : Value → Option Bool
  | bool b => some b
  | _ => none

/-- Equality of values of one kind. -/
def same : Value → Value → Bool
  | text s, text t => s == t
  | number m, number n => m.same n
  | bool a, bool b => a == b
  | missing, missing => true
  | _, _ => false

end Value

end RecordQuery
