/-!
# UTF-8

Characters as bytes and bytes as characters. Reading never fails: each longest piece that starts
like a character but does not complete one is read as the replacement character U+FFFD.
-/

namespace RecordQuery.Text.Utf8

def encodeChar (c : Char) : List UInt8 :=
  let n := c.toNat
  if n < 0x80 then [UInt8.ofNat n]
  else if n < 0x800 then [UInt8.ofNat (0xC0 + n / 64), UInt8.ofNat (0x80 + n % 64)]
  else if n < 0x10000 then
    [UInt8.ofNat (0xE0 + n / 4096), UInt8.ofNat (0x80 + n / 64 % 64), UInt8.ofNat (0x80 + n % 64)]
  else
    [UInt8.ofNat (0xF0 + n / 262144), UInt8.ofNat (0x80 + n / 4096 % 64),
      UInt8.ofNat (0x80 + n / 64 % 64), UInt8.ofNat (0x80 + n % 64)]

def encode (cs : List Char) : List UInt8 := cs.flatMap encodeChar

/-- Stands for bytes that are no character. -/
def replacement : Char := Char.ofNat 0xFFFD

def isContinuation (b : UInt8) : Bool := 0x80 ≤ b.toNat && b.toNat ≤ 0xBF

/-- Bytes that may follow a lead byte: overlong forms, surrogates and numbers past the last
character are refused at the second byte. -/
def secondFits (lead second : UInt8) : Bool :=
  let low := if lead.toNat = 0xE0 then 0xA0 else if lead.toNat = 0xF0 then 0x90 else 0x80
  let high := if lead.toNat = 0xED then 0x9F else if lead.toNat = 0xF4 then 0x8F else 0xBF
  low ≤ second.toNat && second.toNat ≤ high

/-- The character with the given payload bits in groups of six, the first group last. -/
def ofGroups (lead : Nat) (rest : List UInt8) : Char :=
  Char.ofNat (rest.foldl (fun n b => n * 64 + (b.toNat - 0x80)) lead)

def decode : List UInt8 → List Char
  | [] => []
  | lead :: rest =>
    let n := lead.toNat
    if n < 0x80 then Char.ofNat n :: decode rest
    else if 0xC2 ≤ n ∧ n ≤ 0xDF then
      match rest with
      | [] => [replacement]
      | b :: more =>
        if isContinuation b then ofGroups (n - 0xC0) [b] :: decode more
        else replacement :: decode (b :: more)
    else if 0xE0 ≤ n ∧ n ≤ 0xEF then
      match rest with
      | [] => [replacement]
      | [b] => if secondFits lead b then [replacement] else replacement :: decode [b]
      | b :: c :: more =>
        if !secondFits lead b then replacement :: decode (b :: c :: more)
        else if isContinuation c then ofGroups (n - 0xE0) [b, c] :: decode more
        else replacement :: decode (c :: more)
    else if 0xF0 ≤ n ∧ n ≤ 0xF4 then
      match rest with
      | [] => [replacement]
      | [b] => if secondFits lead b then [replacement] else replacement :: decode [b]
      | [b, c] =>
        if !secondFits lead b then replacement :: decode [b, c]
        else if isContinuation c then [replacement]
        else replacement :: decode [c]
      | b :: c :: d :: more =>
        if !secondFits lead b then replacement :: decode (b :: c :: d :: more)
        else if !isContinuation c then replacement :: decode (c :: d :: more)
        else if isContinuation d then ofGroups (n - 0xF0) [b, c, d] :: decode more
        else replacement :: decode (d :: more)
    else replacement :: decode rest

end RecordQuery.Text.Utf8
