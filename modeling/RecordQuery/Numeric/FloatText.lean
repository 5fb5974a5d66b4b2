import RecordQuery.Numeric.Binary64
import RecordQuery.Numeric.Digits

/-!
# Reading floating-point text

An optional sign, then digits with an optional point and an optional exponent, or one of the words
`inf`, `infinity` and `nan` in any case. The value is rounded once from the exact decimal.
-/

namespace RecordQuery.Binary64

def readExponent? : List Char → Option Int
  | [] => some 0
  | c :: cs => if c = 'e' ∨ c = 'E' then Digits.readInt? cs else none

/-- Digits with an optional point and exponent. At least one digit stands beside the point. -/
def readUnsigned? (negative : Bool) (cs : List Char) : Option Binary64 :=
  let whole := cs.takeWhile Char.isDigit
  let rest := cs.dropWhile Char.isDigit
  let fraction := match rest with
    | '.' :: more => more.takeWhile Char.isDigit
    | _ => []
  let tail := match rest with
    | '.' :: more => more.dropWhile Char.isDigit
    | _ => rest
  if whole.isEmpty && fraction.isEmpty then none
  else
    (readExponent? tail).map fun exponent =>
      ofDecimal negative (Digits.value (whole ++ fraction)) (exponent - fraction.length)

/-- The words for values that are not numbers. -/
def readWord? (negative : Bool) (cs : List Char) : Option Binary64 :=
  let word := cs.map Char.toLower
  if word = "nan".toList then some nan
  else if word = "inf".toList ∨ word = "infinity".toList then some (infinite negative)
  else none

def readMagnitude? (negative : Bool) (cs : List Char) : Option Binary64 :=
  (readWord? negative cs).or (readUnsigned? negative cs)

def read? : List Char → Option Binary64
  | '-' :: cs => readMagnitude? true cs
  | '+' :: cs => readMagnitude? false cs
  | cs => readMagnitude? false cs

end RecordQuery.Binary64
