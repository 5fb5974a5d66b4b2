import RecordQuery.Numeric.Binary64
import RecordQuery.Numeric.Digits

/-!
# The shortest decimal form of a floating-point number

The fewest decimal digits that read back as the number, and of those the ones nearest to it. The
reals that round to a number form an interval, which holds its ends when the significand is even.
For one digit, two digits, and so on, the two neighbours of the number on the grid of that many
digits are tried in exact arithmetic.
-/

namespace RecordQuery.Binary64

/-- What to do when two decimal forms are equally near. -/
inductive Tie where
  | up
  | even
deriving DecidableEq

/-- The number `digits * 10 ^ exponent`. -/
structure DecimalForm where
  digits : Nat
  exponent : Int
deriving DecidableEq

/-- A number and the interval of reals that round to it, as multiples of one unit. -/
structure Interval where
  low : Nat
  value : Nat
  high : Nat
  unit : Nat
  closed : Bool

namespace Finite

/-- The interval of a number other than zero, in quarters of `2 ^ (-1074)`. Below a power of two
the numbers are twice as dense. -/
def interval (x : Finite) : Interval :=
  let scale := 1 <<< x.exponent
  let gap := if x.significand = hiddenBit ∧ 0 < x.exponent then 1 else 2
  { low := (4 * x.significand - gap) * scale
    value := 4 * x.significand * scale
    high := (4 * x.significand + 2) * scale
    unit := 4 * unitsInOne
    closed := x.significand % 2 == 0 }

end Finite

namespace Interval

/-- The place of the first digit: the value is at least `10 ^ (place - 1)` and less than
`10 ^ place`. -/
def place (i : Interval) : Int :=
  let whole := i.value / i.unit
  if 0 < whole then (Digits.ofNat whole).length
  else 1 - ((Digits.ofNat ((i.unit + i.value - 1) / i.value - 1)).length : Int)

/-- The better neighbour of the value on the grid of multiples of `10 ^ exponent`, if one of the
two lies in the interval. -/
def onGrid? (i : Interval) (tie : Tie) (exponent : Int) : Option DecimalForm :=
  let up := Digits.placeValue (-exponent).toNat
  let unit := i.unit * Digits.placeValue exponent.toNat
  let below := i.value * up / unit
  let rest := 2 * (i.value * up % unit)
  let belowFits : Bool := if i.closed then i.low * up ≤ below * unit else i.low * up < below * unit
  let aboveFits : Bool :=
    if i.closed then (below + 1) * unit ≤ i.high * up else (below + 1) * unit < i.high * up
  let nearerAbove : Bool :=
    if rest = unit then (match tie with | .up => true | .even => below % 2 == 1)
    else decide (unit < rest)
  if belowFits && aboveFits then some ⟨if nearerAbove then below + 1 else below, exponent⟩
  else if belowFits then some ⟨below, exponent⟩
  else if aboveFits then some ⟨below + 1, exponent⟩
  else none

/-- The first hit among the grids of `count`, `count + 1`, … digits. -/
def search (i : Interval) (tie : Tie) (place : Int) : (fuel count : Nat) → DecimalForm
  | 0, count => ⟨i.value * Digits.placeValue (count - place).toNat / i.unit, place - count⟩
  | fuel + 1, count =>
    match i.onGrid? tie (place - count) with
    | some form => form
    | none => search i tie place fuel (count + 1)

end Interval

namespace DecimalForm

/-- The digits without the zeros at the end, and the exponent that belongs to them. -/
def trimmed (form : DecimalForm) : List Char × Int :=
  let cs := Digits.ofNat form.digits
  let kept := (cs.reverse.dropWhile (· == '0')).reverse
  (kept, form.exponent + (cs.length - kept.length : Nat))

end DecimalForm

/-- The shortest digits of a finite number other than zero, and the power of ten of the last. -/
def Finite.shortest (x : Finite) (tie : Tie) : List Char × Int :=
  let i := x.interval
  (i.search tie i.place 17 1).trimmed

/-- Digits with a decimal point and no exponent; `atLeastOne` asks for a digit after the point. -/
def positional (digits : List Char) (exponent : Int) (atLeastOne : Bool) : List Char :=
  if 0 ≤ exponent then
    digits ++ List.replicate exponent.toNat '0' ++ (if atLeastOne then ['.', '0'] else [])
  else
    let fraction := (-exponent).toNat
    let padded := List.replicate (fraction + 1 - digits.length) '0' ++ digits
    padded.take (padded.length - fraction) ++ '.' :: padded.drop (padded.length - fraction)

/-- Plain decimal text: never an exponent, no point in a whole number. -/
def plainText : Binary64 → String
  | nan => "NaN"
  | infinite negative => if negative then "-inf" else "inf"
  | finite x =>
    let body :=
      if x.significand = 0 then ['0']
      else
        let form := x.shortest .up
        positional form.1 form.2 false
    String.ofList (if x.negative then '-' :: body else body)

/-- Text of a data format: positional with at least one decimal from `10 ^ (-5)` up to `10 ^ 16`,
with an exponent outside. -/
def Finite.dataText (x : Finite) : String :=
  let body :=
    if x.significand = 0 then ['0', '.', '0']
    else
      let form := x.shortest .even
      let digits := form.1
      let leading := form.2 + digits.length - 1
      if -5 ≤ leading ∧ leading < 16 then positional digits form.2 true
      else
        let mantissa :=
          match digits with
          | first :: [] => [first]
          | first :: more => first :: '.' :: more
          | [] => []
        mantissa ++ 'e' :: (if leading < 0 then '-' else '+') :: Digits.ofNat leading.natAbs
  String.ofList (if x.negative then '-' :: body else body)

end RecordQuery.Binary64
