import RecordQuery.FieldPath

/-!
# Orderings

An ordering is a list of paths, each with a direction. Records are sorted by the first path at
which they differ; records without a value come last in either direction, and records that do not
differ keep their places.

Values that cannot be compared count as equal, so the comparison of records that hold quiet errors,
or values of several kinds, need not be transitive. The sort of a standard library says nothing
then: it may leave the records in another order than the sort here, or stop with an error.
-/

namespace RecordQuery

inductive Direction where
  | ascending
  | descending
deriving DecidableEq, Repr

namespace Direction

def name : Direction → String
  | ascending => "asc"
  | descending => "desc"

def apply : Direction → Ordering → Ordering
  | ascending, order => order
  | descending, order => order.swap

end Direction

namespace Value

/-- Orders two values of one kind; a missing value comes last. Values of different kinds are not
ordered. -/
def compare : Value → Value → Option Ordering
  | text s, text t => some (Ord.compare s t)
  | number m, number n => m.compare n
  | bool a, bool b => some (Ord.compare a b)
  | missing, missing => some .eq
  | missing, _ => some .gt
  | _, missing => some .lt
  | _, _ => none

end Value

structure SortKey where
  path : FieldPath
  direction : Direction
deriving DecidableEq, Repr

namespace SortKey

def directive (key : SortKey) : String :=
  match key.direction with
  | .ascending => key.path.text
  | .descending => "-" ++ key.path.text

/-- Orders two values in the direction of the key; the direction does not touch missing values. -/
def compare (key : SortKey) (a b : Value) : Option Ordering :=
  match a, b with
  | .missing, .missing => some .eq
  | .missing, _ => some .gt
  | _, .missing => some .lt
  | a, b => (Value.compare a b).map key.direction.apply

/-- The key that one part of a directive asks for: a hyphen in front asks for the descending
direction. -/
def ofToken (token : List Char) : SortKey :=
  match token with
  | '-' :: rest => ⟨FieldPath.parse (String.ofList (Text.trimChars rest)), .descending⟩
  | _ => ⟨FieldPath.parse (String.ofList token), .ascending⟩

/-- The parts of a directive, without blanks around them and without empty parts. -/
def tokens (directive : String) : List (List Char) :=
  ((directive.toList.splitOn ',').map Text.trimChars).filter fun token => !token.isEmpty

/-- The keys of a directive whose paths name fields of the schema; other parts are dropped. -/
def resolve (schemas : Schemas) (schema : Schema) (directive : String) : List SortKey :=
  (tokens directive).filterMap fun token =>
    let key := ofToken token
    match key.path.resolve schemas schema with
    | .ok _ => some key
    | .error _ => none

/-- The parts of a directive that are dropped, and why. -/
def dropped (schemas : Schemas) (schema : Schema) (directive : String) :
    List (String × Rejection) :=
  (tokens directive).filterMap fun token =>
    match (ofToken token).path.resolve schemas schema with
    | .ok _ => none
    | .error reason => some (String.ofList token, reason)

/-- Orders two records by the first key at which their values differ; values that cannot be
compared do not differ. -/
def compareRecords : List SortKey → Record → Record → Ordering
  | [], _, _ => .eq
  | key :: rest, a, b =>
    match key.compare (key.path.valueOf a) (key.path.valueOf b) with
    | some .lt => .lt
    | some .gt => .gt
    | _ => compareRecords rest a b

def toJson (key : SortKey) : Json :=
  .object [("path", .strings key.path.segments), ("dir", .string key.direction.name)]

end SortKey

/-! ## Stable sorting -/

/-- Puts an element into a list that is sorted from last to first, before all elements that it
does not precede. -/
def insertFromEnd {α : Type} (precedes : α → α → Bool) (x : α) : List α → List α
  | [] => [x]
  | y :: rest => if precedes x y then y :: insertFromEnd precedes x rest else x :: y :: rest

/-- Sorts a list; elements of which neither precedes the other keep their places. Every stable sort
gives this list if `precedes` comes from a total preorder of the elements. If it does not, the
elements are still inserted one after the other, each behind the last that it does not precede, and
other sorts may differ or fail. -/
def stableSort {α : Type} (precedes : α → α → Bool) (xs : List α) : List α :=
  (xs.foldl (fun sorted x => insertFromEnd precedes x sorted) []).reverse

def sortByKeys {α : Type} (keys : List SortKey) (view : α → Record) (xs : List α) : List α :=
  if keys.isEmpty then xs
  else stableSort (fun a b => SortKey.compareRecords keys (view a) (view b) == .lt) xs

end RecordQuery
