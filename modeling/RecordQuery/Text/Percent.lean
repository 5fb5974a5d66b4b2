import RecordQuery.Text.Utf8

/-!
# Percent coding

Text inside a query string. Letters, digits and `-`, `.`, `_`, `~` stand for themselves; every
other byte of the UTF-8 form is written as `%` and two hexadecimal digits. Reading also takes `+`
for a space and leaves a `%` that starts no pair of digits as it is.
-/

namespace RecordQuery.Text.Percent

/-- A character that needs no coding. -/
def isPlain (n : Nat) : Bool :=
  (0x30 ≤ n && n ≤ 0x39) || (0x41 ≤ n && n ≤ 0x5A) || (0x61 ≤ n && n ≤ 0x7A) ||
    n == 0x2D || n == 0x2E || n == 0x5F || n == 0x7E

def hexDigit (n : Nat) : Char := Char.ofNat (if n < 10 then 0x30 + n else 0x41 + (n - 10))

def hexValue? (b : UInt8) : Option Nat :=
  let n := b.toNat
  if 0x30 ≤ n ∧ n ≤ 0x39 then some (n - 0x30)
  else if 0x41 ≤ n ∧ n ≤ 0x46 then some (n - 0x41 + 10)
  else if 0x61 ≤ n ∧ n ≤ 0x66 then some (n - 0x61 + 10)
  else none

def encodeByte (b : UInt8) : List Char :=
  if isPlain b.toNat then [Char.ofNat b.toNat]
  else ['%', hexDigit (b.toNat / 16), hexDigit (b.toNat % 16)]

def encodeChars (cs : List Char) : List Char := (Utf8.encode cs).flatMap encodeByte

def decodeBytes : List UInt8 → List UInt8
  | [] => []
  | b :: high :: low :: rest =>
    if b.toNat = 0x25 then
      match hexValue? high, hexValue? low with
      | some h, some l => UInt8.ofNat (h * 16 + l) :: decodeBytes rest
      | _, _ => b :: decodeBytes (high :: low :: rest)
    else b :: decodeBytes (high :: low :: rest)
  | b :: rest => b :: decodeBytes rest

def decodeChars (cs : List Char) : List Char :=
  let spaced := cs.map fun c => if c = '+' then ' ' else c
  Utf8.decode (decodeBytes (Utf8.encode spaced))

def encode (s : String) : String := String.ofList (encodeChars s.toList)

def decode (s : String) : String := String.ofList (decodeChars s.toList)

end RecordQuery.Text.Percent
