/-!
# Whole numbers in decimal digits

Whole numbers as text: digits alone, or digits behind a sign. Only the digits 0 to 9 count.
-/

namespace RecordQuery.Digits

/-- The digits of a whole number, without leading zeros. -/
def ofNat (n : Nat) : List Char := Nat.toDigits 10 n

def value (cs : List Char) : Nat := Nat.ofDigitChars 10 cs 0

theorem value_ofNat (n : Nat) : value (ofNat n) = n :=
  Nat.ofDigitChars_toDigits (by decide) (by decide)

/-- Ten to the power of `n`: what a one with `n` zeros behind it stands for. -/
def placeValue (n : Nat) : Nat := Nat.pow 10 n

/-- One or more digits and nothing else. -/
def readNat? (cs : List Char) : Option Nat :=
  if cs.isEmpty || !cs.all Char.isDigit then none else some (value cs)

/-- Digits behind an optional plus sign. -/
def readUnsigned? : List Char → Option Nat
  | '+' :: cs => readNat? cs
  | cs => readNat? cs

/-- Digits behind an optional sign. -/
def readInt? : List Char → Option Int
  | '-' :: cs => (readNat? cs).map fun n => -(n : Int)
  | '+' :: cs => (readNat? cs).map fun n => (n : Int)
  | cs => (readNat? cs).map fun n => (n : Int)

def readInt64? (cs : List Char) : Option Int64 :=
  (readInt? cs).bind fun n =>
    if -0x8000000000000000 ≤ n ∧ n < 0x8000000000000000 then some (Int64.ofInt n) else none

def readUInt64? (cs : List Char) : Option UInt64 :=
  (readUnsigned? cs).bind fun n => if n < UInt64.size then some (UInt64.ofNat n) else none

def natText (n : Nat) : String := String.ofList (ofNat n)

def intText (n : Int) : String :=
  if n < 0 then String.ofList ('-' :: ofNat n.natAbs) else natText n.natAbs

end RecordQuery.Digits
