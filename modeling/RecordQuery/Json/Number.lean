import RecordQuery.Json.Basic
import RecordQuery.Numeric.Digits

/-!
# Reading JSON numbers

A number without point and exponent that fits 64 bits is an integer; minus zero and everything
else is a floating-point number. A floating-point number is worked out from the leading digits
that fit 64 bits and one power of ten, rounded after each of the two steps.
-/

namespace RecordQuery.JsonNumber

/-- The digits that fit 64 bits together with those read before, and the digits left over. -/
def takeFitting (significand : Nat) : List Char → Nat × List Char
  | [] => (significand, [])
  | c :: rest =>
    let next := significand * 10 + (c.toNat - '0'.toNat)
    if next < UInt64.size then takeFitting next rest else (significand, c :: rest)

/-- Multiplies or divides by a power of ten. Powers beyond `10 ^ 308` are applied in steps, and a
result that is too large is refused. -/
def scaleByTen? : (fuel : Nat) → Binary64.Finite → Int → Option Binary64.Finite
  | 0, x, _ => some x
  | fuel + 1, x, exponent =>
    if exponent.natAbs ≤ 308 then
      match Binary64.ofRatio false (Digits.placeValue exponent.natAbs) 1 with
      | .finite power =>
        match (if 0 ≤ exponent then Binary64.multiply x power else Binary64.divide x power) with
        | .finite result => some result
        | _ => none
      | _ => none
    else if x.significand = 0 then some x
    else if 0 ≤ exponent then none
    else
      match Binary64.ofRatio false (Digits.placeValue 308) 1 with
      | .finite power =>
        match Binary64.divide x power with
        | .finite result => scaleByTen? fuel result (exponent + 308)
        | _ => none
      | _ => none

/-- The number `± significand * 10 ^ exponent`. -/
def ofScientific? (negative : Bool) (significand : Nat) (exponent : Int) : Option JsonNumber :=
  match Binary64.ofInt significand with
  | .finite x =>
    (scaleByTen? 8 x exponent).map fun result => .float { result with negative := negative }
  | _ => none

def readExponent? (cs : List Char) : Option ((Bool × Nat) × List Char) :=
  let body := match cs with
    | '+' :: rest => (false, rest)
    | '-' :: rest => (true, rest)
    | _ => (false, cs)
  let digits := body.2.takeWhile Char.isDigit
  if digits.isEmpty then none
  else some ((body.1, Digits.value digits), body.2.dropWhile Char.isDigit)

/-- A number that has a point or an exponent or is too large for an integer. -/
def readFloat? (negative : Bool) (whole fraction : List Char)
    (exponent : Option (Bool × Nat)) : Option JsonNumber :=
  let first := takeFitting 0 whole
  let second := if first.2.isEmpty || !fraction.isEmpty then takeFitting first.1 fraction
    else (first.1, fraction)
  let places : Int := (first.2.length : Int) - (fraction.length - second.2.length : Nat)
  match exponent with
  | none => ofScientific? negative second.1 places
  | some (down, size) =>
    if size < 0x80000000 then
      ofScientific? negative second.1 (if down then places - size else places + size)
    else if second.1 ≠ 0 ∧ down = false then none
    else some (.float (.zero negative))

/-- An integer, or the floating-point number nearest to one that does not fit. -/
def readInteger? (negative : Bool) (whole : List Char) : Option JsonNumber :=
  let size := Digits.value whole
  if negative && size = 0 then some (.float (.zero true))
  else if negative && 0x8000000000000000 < size && size < UInt64.size then ofScientific? true size 0
  else
    match ofInt? (if negative then -(size : Int) else size) with
    | some n => some n
    | none => readFloat? negative whole [] none

structure Literal where
  negative : Bool
  whole : List Char
  fraction : Option (List Char)
  /-- Whether the exponent is below zero, and its size. -/
  exponent : Option (Bool × Nat)

/-- Takes a number apart at the start of the text and leaves the rest. -/
def scan? (cs : List Char) : Option (Literal × List Char) :=
  let negative := cs.head? == some '-'
  let body := if negative then cs.drop 1 else cs
  let whole := body.takeWhile Char.isDigit
  let afterWhole := body.dropWhile Char.isDigit
  if whole.isEmpty || (whole.head? == some '0' && 1 < whole.length) then none
  else
    let point := afterWhole.head? == some '.'
    let fraction := if point then (afterWhole.drop 1).takeWhile Char.isDigit else []
    let afterFraction := if point then (afterWhole.drop 1).dropWhile Char.isDigit else afterWhole
    let fraction? := if point then some fraction else none
    if point && fraction.isEmpty then none
    else if afterFraction.head? == some 'e' || afterFraction.head? == some 'E' then
      (readExponent? (afterFraction.drop 1)).map fun (exponent, rest) =>
        (⟨negative, whole, fraction?, some exponent⟩, rest)
    else some (⟨negative, whole, fraction?, none⟩, afterFraction)

def Literal.value? (literal : Literal) : Option JsonNumber :=
  match literal.fraction, literal.exponent with
  | none, none => readInteger? literal.negative literal.whole
  | fraction, exponent =>
    readFloat? literal.negative literal.whole (fraction.getD []) exponent

def read? (cs : List Char) : Option (JsonNumber × List Char) :=
  (scan? cs).bind fun (literal, rest) => literal.value?.map fun n => (n, rest)

end RecordQuery.JsonNumber
