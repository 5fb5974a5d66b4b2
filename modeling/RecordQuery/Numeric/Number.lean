import RecordQuery.Json.Basic
import RecordQuery.Numeric.Decimal
import RecordQuery.Numeric.FloatText
import RecordQuery.Numeric.Shortest
import RecordQuery.Text.Blank

/-!
# Numbers

The numbers that fields hold and conditions name. Integers and decimals are compared exactly with
decimals; every other mixed pair is compared as floating-point numbers.
-/

namespace RecordQuery

inductive Number where
  | signed (n : Int64)
  | unsigned (n : UInt64)
  | float (x : Binary64)
  | decimal (d : Decimal)
deriving DecidableEq

namespace Number

/-- The nearest floating-point number. -/
def toBinary64 : Number → Binary64
  | signed n => Binary64.ofInt n.toInt
  | unsigned n => Binary64.ofInt n.toNat
  | float x => x
  | decimal d => d.toBinary64

def toDecimal? : Number → Option Decimal
  | signed n => some (.ofInt64 n)
  | unsigned n => some (.ofUInt64 n)
  | float _ => none
  | decimal d => some d

def isDecimal : Number → Bool
  | decimal _ => true
  | _ => false

/-- Orders two numbers; a quiet error has no place in the order. -/
def compare : Number → Number → Option Ordering
  | signed a, signed b => some (Ord.compare a.toInt b.toInt)
  | unsigned a, unsigned b => some (Ord.compare a.toNat b.toNat)
  | float a, float b => Binary64.compare a b
  | a, b =>
    if a.isDecimal || b.isDecimal then
      match a.toDecimal?, b.toDecimal? with
      | some x, some y => some (Decimal.compare x y)
      | _, _ => Binary64.compare a.toBinary64 b.toBinary64
    else Binary64.compare a.toBinary64 b.toBinary64

/-- Equality of numbers of one kind: the two zeros are equal, and so are decimals that differ in
scale alone. -/
def same : Number → Number → Bool
  | signed a, signed b => a == b
  | unsigned a, unsigned b => a == b
  | float a, float b => Binary64.same a b
  | decimal a, decimal b => Decimal.compare a b == .eq
  | _, _ => false

def text : Number → String
  | signed n => Digits.intText n.toInt
  | unsigned n => Digits.natText n.toNat
  | float x => x.plainText
  | decimal d => d.text

/-- The number in the data format: decimals as text, floating-point numbers that are not finite
as `null`. -/
def toJson : Number → Json
  | signed n => .number (.ofInt64 n)
  | unsigned n => .number (.ofUInt64 n)
  | float x => .ofBinary64 x
  | decimal d => .string d.text

end Number

end RecordQuery
