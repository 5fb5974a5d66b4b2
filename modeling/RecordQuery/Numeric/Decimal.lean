import RecordQuery.Numeric.Binary64
import RecordQuery.Numeric.Digits

/-!
# Decimal numbers

A decimal number is a sign and an integer of at most 96 bits over a power of ten up to `10 ^ 28`.
The scale is part of the value's text but not of its order: `1.0` and `1.00` are equal, and so are
the two zeros.
-/

namespace RecordQuery

/-- Two to the power of 96. -/
def Decimal.coefficientBound : Nat := 0x1000000000000000000000000

/-- The number `coefficient / 10 ^ scale`, below zero if `negative`. -/
structure Decimal where
  negative : Bool
  coefficient : Nat
  scale : Nat
  coefficient_lt : coefficient < Decimal.coefficientBound
  scale_le : scale ≤ 28
deriving DecidableEq

namespace Decimal

def ofParts? (negative : Bool) (coefficient scale : Nat) : Option Decimal :=
  if h : coefficient < coefficientBound ∧ scale ≤ 28 then
    some ⟨negative, coefficient, scale, h.1, h.2⟩
  else none

def ofInt64 (n : Int64) : Decimal :=
  ⟨n.toInt < 0, n.toInt.natAbs, 0,
    by have := n.toInt_lt; have := n.le_toInt; unfold coefficientBound; omega, by decide⟩

def ofUInt64 (n : UInt64) : Decimal :=
  ⟨false, n.toNat, 0, by have := n.toNat_lt; unfold coefficientBound; omega, by decide⟩

/-- The coefficient with the sign. -/
def signed (d : Decimal) : Int := if d.negative then -(d.coefficient : Int) else d.coefficient

def compare (a b : Decimal) : Ordering :=
  Ord.compare (a.signed * Digits.placeValue b.scale) (b.signed * Digits.placeValue a.scale)

/-! ## Reading -/

/-- The number read from digits; zero has no sign. -/
def ofDigits? (negative : Bool) (size scale : Nat) : Option Decimal :=
  ofParts? (negative && size != 0) size scale

/-- The number reached when the digit `next` no longer fits behind the digits read so far: a digit
from 5 on counts one more, and a coefficient that grows too large by it gives up its last place. A
separator in that place counts as zero. Only digits and separators may follow. -/
def rounded? (negative : Bool) (size scale : Nat) (next : Char) (rest : List Char) :
    Option Decimal :=
  if !(next :: rest).all (fun c => c.isDigit || c == '_') then none
  else if !(next.isDigit && '5' ≤ next) then ofDigits? negative size scale
  else if size + 1 < coefficientBound then ofDigits? negative (size + 1) scale
  else if scale = 0 then none
  else ofDigits? negative ((size + 5) / 10) (scale - 1)

/-- From this size on separators in the place of rounding are passed over: the digit behind them
decides. Below, the separator itself stands for that digit. -/
def wideFrom : Nat := 1844674407370954906

/-- Reads digits, one point and separators, behind what has been read: whether the point and a
digit have been seen, and the number so far. -/
def readDigits? (negative : Bool) : (point seen : Bool) → (size scale : Nat) → List Char →
    Option Decimal
  | _, seen, size, scale, [] => if seen then ofDigits? negative size scale else none
  | point, seen, size, scale, c :: rest =>
    if c.isDigit then
      let size' := size * 10 + (c.toNat - '0'.toNat)
      let scale' := if point then scale + 1 else 0
      if coefficientBound ≤ size' then
        (if point then rounded? negative size scale c rest else none)
      else if point && 28 ≤ scale' then
        match (if wideFrom ≤ size then rest.dropWhile (· == '_') else rest) with
        | [] => ofDigits? negative size' scale'
        | next :: rest' => rounded? negative size' scale' next rest'
      else readDigits? negative point true size' scale' rest
    else if c = '.' ∧ point = false then readDigits? negative true seen size scale rest
    else if c = '_' ∧ seen then readDigits? negative point seen size scale rest
    else none

def readPlain? : List Char → Option Decimal
  | '-' :: cs => readDigits? true false false 0 0 cs
  | '+' :: cs => readDigits? false false false 0 0 cs
  | cs => readDigits? false false false 0 0 cs

/-- The number with its point moved left by at most 28 places. Digits beyond the 28th place are
rounded away, a half going away from zero; the sign stays, even on a zero. -/
def shiftLeft? (d : Decimal) (places : Nat) : Option Decimal :=
  if places ≤ 28 then
    let unit := Digits.placeValue (d.scale + places - 28)
    ofParts? d.negative ((d.coefficient + unit / 2) / unit) (min 28 (d.scale + places))
  else none

/-- The number with its point moved right by `places`; beyond its last digit, zeros are added. -/
def shiftRight? (d : Decimal) (places : Nat) : Option Decimal :=
  if places ≤ d.scale then ofParts? d.negative d.coefficient (d.scale - places)
  else if places ≤ 28 then
    ofParts? d.negative (d.coefficient * Digits.placeValue (places - d.scale)) 0
  else none

/-- The exponent of ten applied to a number: a minus sign or none, then digits. -/
def applyExponent? (d : Decimal) : List Char → Option Decimal
  | '-' :: cs => (Digits.readUnsigned? cs).bind d.shiftLeft?
  | cs => (Digits.readUnsigned? cs).bind d.shiftRight?

def read? (cs : List Char) : Option Decimal :=
  (readPlain? cs).or
    (let isMark (c : Char) : Bool := c == 'e' || c == 'E'
     match cs.dropWhile fun c => !isMark c with
     | _ :: exponent =>
       (readPlain? (cs.takeWhile fun c => !isMark c)).bind fun d => d.applyExponent? exponent
     | [] => none)

/-! ## Writing -/

/-- The digits, with the point before the last `scale` of them. -/
def chars (d : Decimal) : List Char :=
  let digits := Digits.ofNat d.coefficient
  let padded := List.replicate (d.scale + 1 - digits.length) '0' ++ digits
  let body :=
    if d.scale = 0 then padded
    else padded.take (padded.length - d.scale) ++ '.' :: padded.drop (padded.length - d.scale)
  if d.negative then '-' :: body else body

def text (d : Decimal) : String := String.ofList d.chars

/-! ## Conversion -/

/-- A floating-point number near to `size / 10 ^ scale`: the whole part and the fraction are
converted and added, and the sum is rounded to the number of places. -/
def sizeToBinary64 (size scale : Nat) : Binary64 :=
  let power := Digits.placeValue scale
  match Binary64.ofRatio false (size / power) 1,
      Binary64.ofRatio false (size % power) 1, Binary64.ofRatio false power 1 with
  | .finite whole, .finite rest, .finite divisor =>
    if rest.significand = 0 then .finite whole
    else
      match Binary64.divide rest divisor with
      | .finite fraction =>
        match Binary64.addSizes whole fraction, Binary64.powerOfTen scale with
        | .finite sum, .finite places =>
          match Binary64.multiply sum places with
          | .finite product =>
            match Binary64.roundHalfAway product with
            | .finite nearest => Binary64.divide nearest places
            | other => other
          | other => other
        | _, other => other
      | other => other
  | _, _, other => other

/-- A floating-point number near to the decimal: the nearest one for integers. -/
def toBinary64 (d : Decimal) : Binary64 :=
  let size :=
    if d.scale = 0 then Binary64.ofRatio false d.coefficient 1
    else sizeToBinary64 d.coefficient d.scale
  if d.negative then size.negate else size

end Decimal

end RecordQuery
