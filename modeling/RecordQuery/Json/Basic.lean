import RecordQuery.Numeric.Binary64

/-!
# JSON values

The values of the data format in which records are written, filters are shown and answers are
given. An object is kept as the list of its entries. `Entries.insert` keeps a list of entries in
the order of the keys with each key once; an object built by it alone is *sorted*.
-/

namespace RecordQuery

/-- A number of the data format: an integer between `-2 ^ 63` and `2 ^ 64 - 1`, or a finite
floating-point number. The two are never the same number, even when they are equal by value. -/
inductive JsonNumber where
  | integer (n : Int) (lower : -0x8000000000000000 ≤ n) (upper : n < 0x10000000000000000)
  | float (x : Binary64.Finite)
deriving DecidableEq

namespace JsonNumber

def ofInt64 (n : Int64) : JsonNumber :=
  .integer n.toInt n.le_toInt (by have := n.toInt_lt; omega)

def ofUInt64 (n : UInt64) : JsonNumber :=
  .integer (n.toNat : Int) (by omega) (by have := n.toNat_lt; omega)

def ofInt? (n : Int) : Option JsonNumber :=
  if h : -0x8000000000000000 ≤ n ∧ n < 0x10000000000000000 then some (.integer n h.1 h.2)
  else none

def toUInt64? : JsonNumber → Option UInt64
  | integer n _ _ => if 0 ≤ n then some (UInt64.ofNat n.toNat) else none
  | float _ => none

/-- Equality of numbers as the format sees it: two zeros of different sign are equal. -/
def same : JsonNumber → JsonNumber → Bool
  | integer m _ _, integer n _ _ => m == n
  | float x, float y => x.units == y.units
  | _, _ => false

end JsonNumber

inductive Json where
  | null
  | bool (b : Bool)
  | number (n : JsonNumber)
  | string (s : String)
  | array (values : List Json)
  | object (entries : List (String × Json))

abbrev Entries := List (String × Json)

namespace Entries

/-- The value under a key; the first one, should the key be there twice. -/
def get? (entries : Entries) (key : String) : Option Json := entries.lookup key

/-- Puts a value under a key and keeps the keys in order. -/
def insert (key : String) (value : Json) : Entries → Entries
  | [] => [(key, value)]
  | (k, v) :: rest =>
    if key = k then (key, value) :: rest
    else if key < k then (key, value) :: (k, v) :: rest
    else (k, v) :: insert key value rest

theorem get?_cons (key k : String) (value : Json) (rest : Entries) :
    get? ((k, value) :: rest) key = if key = k then some value else get? rest key := by
  by_cases h : key = k
  · simp [get?, h]
  · simp [get?, List.lookup_cons, h, beq_eq_false_iff_ne.2 h]

/-- Putting a value under a key changes what stands under that key alone. -/
theorem get?_insert (key other : String) (value : Json) (entries : Entries) :
    get? (insert key value entries) other =
      if other = key then some value else get? entries other := by
  induction entries with
  | nil => exact get?_cons other key value []
  | cons entry rest ih =>
    obtain ⟨k, v⟩ := entry
    simp only [insert]
    split
    · next h => subst h; grind [get?_cons]
    · split <;> grind [get?_cons]

/-- Puts every entry of `changes` over the entries of `entries`. -/
def overlay (entries changes : Entries) : Entries :=
  changes.foldl (fun all change => insert change.1 change.2 all) entries

/-- The entries in the order of their keys, the last value of each key. -/
def sorted (entries : Entries) : Entries := overlay [] entries

end Entries

namespace Json

def ofInt (n : Int) : Json :=
  match JsonNumber.ofInt? n with
  | some k => number k
  | none => null

def ofNat (n : Nat) : Json := ofInt n

def ofBinary64 : Binary64 → Json
  | .finite x => number (.float x)
  | _ => null

def ofOption : Option Json → Json
  | some value => value
  | none => null

def ofEntries (entries : Entries) : Json := object entries.sorted

def strings (texts : List String) : Json := array (texts.map string)

def isNull : Json → Bool
  | null => true
  | _ => false

def get? (value : Json) (key : String) : Option Json :=
  match value with
  | object entries => Entries.get? entries key
  | _ => none

def kindName : Json → String
  | null => "null"
  | bool _ => "bool"
  | number _ => "number"
  | string _ => "str"
  | array _ => "list"
  | object _ => "dict"

mutual

def same : Json → Json → Bool
  | null, null => true
  | bool a, bool b => a == b
  | number m, number n => m.same n
  | string s, string t => s == t
  | array xs, array ys => sameList xs ys
  | object xs, object ys => sameEntries xs ys
  | _, _ => false

def sameList : List Json → List Json → Bool
  | [], [] => true
  | x :: xs, y :: ys => same x y && sameList xs ys
  | _, _ => false

def sameEntries : List (String × Json) → List (String × Json) → Bool
  | [], [] => true
  | (k, x) :: xs, (l, y) :: ys => k == l && same x y && sameEntries xs ys
  | _, _ => false

end

mutual

def sorted : Json → Json
  | array values => array (sortedList values)
  | object entries => object (Entries.sorted (sortedEntries entries))
  | value => value

def sortedList : List Json → List Json
  | [] => []
  | value :: rest => sorted value :: sortedList rest

def sortedEntries : List (String × Json) → List (String × Json)
  | [] => []
  | (key, value) :: rest => (key, sorted value) :: sortedEntries rest

end

end Json

end RecordQuery
