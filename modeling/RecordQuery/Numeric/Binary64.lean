import RecordQuery.Numeric.Digits

/-!
# Binary floating-point numbers of 64 bits

Every finite number is a sign and a whole multiple of `2 ^ (-1074)`. The significand and the
exponent are kept in the one form in which each magnitude can be written, so that two finite
numbers of one sign are equal exactly when their parts are. Every operation rounds the exact
result once, to the nearest number and to the even significand when two are equally near.
-/

namespace RecordQuery

namespace Binary64

/-- Two to the power of 52: the first significand of full length. -/
def hiddenBit : Nat := 0x10000000000000

/-- The number `± significand * 2 ^ exponent * 2 ^ (-1074)`. -/
structure Finite where
  negative : Bool
  significand : Nat
  exponent : Nat
  significand_lt : significand < 2 * hiddenBit
  exponent_le : exponent ≤ 2045
  normal : exponent = 0 ∨ hiddenBit ≤ significand
deriving DecidableEq

namespace Finite

/-- The size of the number, counted in `2 ^ (-1074)`. -/
def size (x : Finite) : Nat := x.significand <<< x.exponent

/-- The number itself, counted in `2 ^ (-1074)`. -/
def units (x : Finite) : Int := if x.negative then -(x.size : Int) else x.size

def zero (negative : Bool) : Finite :=
  ⟨negative, 0, 0, by decide, by decide, Or.inl rfl⟩

/-- The number with these parts, if they are in range and in the one allowed form. -/
def ofParts? (negative : Bool) (significand exponent : Nat) : Option Finite :=
  if h : significand < 2 * hiddenBit ∧ exponent ≤ 2045 ∧
      (exponent = 0 ∨ hiddenBit ≤ significand) then
    some ⟨negative, significand, exponent, h.1, h.2.1, h.2.2⟩
  else none

/-- The pattern of 64 bits: sign, eleven bits of exponent, fifty-two bits of significand. -/
def bits (x : Finite) : Nat :=
  let sign := if x.negative then 0x8000000000000000 else 0
  if x.significand < hiddenBit then sign + x.significand
  else sign + (x.exponent + 1) * hiddenBit + (x.significand - hiddenBit)

end Finite

end Binary64

/-- A binary floating-point number of 64 bits; all quiet errors are one value. -/
inductive Binary64 where
  | nan
  | infinite (negative : Bool)
  | finite (x : Binary64.Finite)
deriving DecidableEq

namespace Binary64

/-- One, counted in `2 ^ (-1074)`. -/
def unitsInOne : Nat := 1 <<< 1074

/-- The whole number nearest to a quotient; of two equally near, the even one. -/
def divideToEven (num den : Nat) : Nat :=
  let quotient := num / den
  let rest := 2 * (num % den)
  if rest < den then quotient
  else if den < rest then quotient + 1
  else if quotient % 2 = 0 then quotient else quotient + 1

/-- The number with a rounded significand. A significand that rounding made too long is the first
one of the next exponent. -/
def Finite.ofRounded? (negative : Bool) (significand exponent : Nat) : Option Finite :=
  if significand = 2 * hiddenBit then ofParts? negative hiddenBit (exponent + 1)
  else ofParts? negative significand exponent

/-- The exponent of the numbers around a size that is counted in `2 ^ (-1074)`. -/
def gap (size : Nat) : Nat := size.log2 - 52

/-- A number out of range is infinite. -/
def orInfinite (negative : Bool) : Option Finite → Binary64
  | some x => finite x
  | none => infinite negative

/-- The number nearest to `scaled / den`, counted in `2 ^ (-1074)`. -/
def ofUnits (negative : Bool) (scaled den : Nat) : Binary64 :=
  let exponent := gap (scaled / den)
  orInfinite negative
    (Finite.ofRounded? negative (divideToEven scaled (den <<< exponent)) exponent)

/-- The number nearest to `num / den`, for positive `den`. -/
def ofRatio (negative : Bool) (num den : Nat) : Binary64 :=
  ofUnits negative (num * unitsInOne) den

def ofInt (n : Int) : Binary64 := ofRatio (n < 0) n.natAbs 1

/-- The number nearest to `digits * 10 ^ exponent`. Powers of ten far outside the range are not
worked out. -/
def ofDecimal (negative : Bool) (digits : Nat) (exponent : Int) : Binary64 :=
  let places : Int := (Digits.ofNat digits).length + exponent
  if digits = 0 then finite (.zero negative)
  else if 310 < places then infinite negative
  else if places < -330 then finite (.zero negative)
  else if 0 ≤ exponent then ofRatio negative (digits * Digits.placeValue exponent.toNat) 1
  else ofRatio negative digits (Digits.placeValue (-exponent).toNat)

def isFinite : Binary64 → Bool
  | finite _ => true
  | _ => false

def negate : Binary64 → Binary64
  | nan => nan
  | infinite negative => infinite !negative
  | finite x => finite { x with negative := !x.negative }

/-- Orders two numbers by value; the two zeros are equal and a quiet error has no place. -/
def compare : Binary64 → Binary64 → Option Ordering
  | nan, _ => none
  | _, nan => none
  | infinite a, infinite b => some (Ord.compare b a)
  | infinite negative, finite _ => some (if negative then .lt else .gt)
  | finite _, infinite negative => some (if negative then .gt else .lt)
  | finite x, finite y => some (Ord.compare x.units y.units)

def same (a b : Binary64) : Bool := compare a b == some .eq

/-- The sum of two numbers of the same sign. -/
def addSizes (a b : Finite) : Binary64 := ofRatio a.negative (a.size + b.size) unitsInOne

def multiply (a b : Finite) : Binary64 :=
  ofRatio (a.negative != b.negative) (a.size * b.size) (unitsInOne * unitsInOne)

def divide (a b : Finite) : Binary64 := ofRatio (a.negative != b.negative) a.size b.size

/-- The nearest whole number; a half goes away from zero. -/
def roundHalfAway (x : Finite) : Binary64 :=
  ofRatio x.negative ((2 * x.size + unitsInOne) / (2 * unitsInOne)) 1

/-- The power of ten reached by squaring and multiplying, rounded at each step. -/
def powerOfTen (n : Nat) : Binary64 :=
  go 64 n (ofInt 10) (ofInt 1)
where
  /-- Multiplies the squares that the binary digits of the exponent pick. -/
  go : Nat → Nat → Binary64 → Binary64 → Binary64
    | 0, _, _, product => product
    | fuel + 1, n, square, product =>
      let product := if n % 2 = 1 then times product square else product
      if n / 2 = 0 then product else go fuel (n / 2) (times square square) product
  /-- Multiplies finite numbers; anything else is passed on. -/
  times : Binary64 → Binary64 → Binary64
    | finite a, finite b => multiply a b
    | finite _, b => b
    | a, _ => a

/-- The sixteen hexadecimal digits of the bit pattern. -/
def bitsText : Binary64 → String
  | nan => "nan"
  | infinite negative => hex (if negative then 0xFFF0000000000000 else 0x7FF0000000000000)
  | finite x => hex x.bits
where
  hex (n : Nat) : String :=
    let digits := Nat.toDigits 16 n
    String.ofList (List.replicate (16 - digits.length) '0' ++ digits)

end Binary64

end RecordQuery
