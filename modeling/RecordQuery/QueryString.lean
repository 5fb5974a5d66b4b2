import RecordQuery.Text.Percent

/-!
# Query strings

The parameters of a request: key and value pairs in the order in which they were written. A key
may stand in several pairs; where one value is wanted, the last pair counts.
-/

namespace RecordQuery

structure QueryString where
  pairs : List (String × String)
deriving DecidableEq, Repr, Inhabited

namespace QueryString

def empty : QueryString := ⟨[]⟩

/-- A key and a value: the text before and after the first equals sign, or a key alone. -/
def readPair (cs : List Char) : String × String :=
  let key := cs.takeWhile (· ≠ '=')
  let value := (cs.dropWhile (· ≠ '=')).drop 1
  (String.ofList (Text.Percent.decodeChars key), String.ofList (Text.Percent.decodeChars value))

/-- Reads a query string; a question mark in front is skipped, as are empty pairs. -/
def parse (query : String) : QueryString :=
  let cs := match query.toList with
    | '?' :: rest => rest
    | cs => cs
  ⟨((cs.splitOn '&').filter (fun piece => !piece.isEmpty)).map readPair⟩

/-- The value of the last pair with this key. -/
def get? (q : QueryString) (key : String) : Option String :=
  (q.pairs.reverse.find? fun pair => pair.1 == key).map Prod.snd

def getAll (q : QueryString) (key : String) : List String :=
  (q.pairs.filter fun pair => pair.1 == key).map Prod.snd

def contains (q : QueryString) (key : String) : Bool := q.pairs.any fun pair => pair.1 == key

/-- Gives the key this value where it stands, or puts it at the end. -/
def assign (key value : String) : List (String × String) → List (String × String)
  | [] => [(key, value)]
  | (k, v) :: rest => if k = key then (key, value) :: rest else (k, v) :: assign key value rest

/-- Each key once, where it first stands, with its last value. -/
def lastValues (q : QueryString) : List (String × String) :=
  q.pairs.foldl (fun all pair => assign pair.1 pair.2 all) []

def append (q : QueryString) (pairs : List (String × String)) : QueryString :=
  ⟨q.pairs ++ pairs⟩

def erase (q : QueryString) (key : String) : QueryString :=
  ⟨q.pairs.filter fun pair => pair.1 != key⟩

theorem getAll_erase (q : QueryString) (key other : String) :
    (q.erase key).getAll other = if other = key then [] else q.getAll other := by
  simp only [erase, getAll, List.filter_filter]
  split
  · next h => subst h; simp
  · next h =>
    congr 1
    apply List.filter_congr
    intro pair _
    by_cases hp : pair.1 = other <;> simp [hp, h]

/-- Sets the first pair with this key to the value and drops the others; a key that is not there
is put at the end. -/
def replacePairs (key value : String) : List (String × String) → List (String × String)
  | [] => [(key, value)]
  | (k, v) :: rest =>
    if k = key then (key, value) :: rest.filter (fun pair => pair.1 != key)
    else (k, v) :: replacePairs key value rest

def replace (q : QueryString) (key value : String) : QueryString :=
  ⟨replacePairs key value q.pairs⟩

def renderPair (pair : String × String) : List Char :=
  Text.Percent.encodeChars pair.1.toList ++ '=' :: Text.Percent.encodeChars pair.2.toList

def render (q : QueryString) : String :=
  String.ofList (List.intercalate ['&'] (q.pairs.map renderPair))

/-- The parameters behind a base address, whose own query is dropped. -/
def url (q : QueryString) (base : String) : String :=
  let address := String.ofList (base.toList.takeWhile (· ≠ '?'))
  if q.pairs.isEmpty then address else address ++ "?" ++ q.render

end QueryString

end RecordQuery
