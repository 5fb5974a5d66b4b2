import RecordQuery.Text.LowerTable
import RecordQuery.Text.Ranges

/-!
# Lowercase text

The full lowercase form of a text. Two letters are not mapped one to one: the dotted capital I
becomes a small i and a combining dot, and a capital sigma becomes the final form at the end of a
word.
-/

namespace RecordQuery.Text

def lowerChar (c : Char) : Char :=
  let code := c.toNat
  if code < 0x80 then (if 0x41 ≤ code ∧ code ≤ 0x5A then Char.ofNat (code + 0x20) else c)
  else CaseRun.apply lowerRuns c

def isCased (c : Char) : Bool := inRanges casedRanges c.toNat

/-- The character is skipped when the end of a word is looked for. -/
def isCaseIgnorable (c : Char) : Bool := inRanges caseIgnorableRanges c.toNat

/-- The nearest character that counts is a letter with case. -/
def meetsCased (cs : List Char) : Bool :=
  match cs.dropWhile isCaseIgnorable with
  | c :: _ => isCased c
  | [] => false

/-- A capital sigma between these characters (those before it in reverse) ends a word. -/
def endsWord (before after : List Char) : Bool := meetsCased before && !meetsCased after

/-- Lowercases text of which the characters in `before`, in reverse, have been read. -/
def lowerFrom (before : List Char) : List Char → List Char
  | [] => []
  | c :: rest =>
    let image : List Char :=
      if c.toNat = 0x130 then ['i', Char.ofNat 0x307]
      else if c.toNat = 0x3A3 then [Char.ofNat (if endsWord before rest then 0x3C2 else 0x3C3)]
      else [lowerChar c]
    image ++ lowerFrom (c :: before) rest

def lowerChars (cs : List Char) : List Char := lowerFrom [] cs

def lower (s : String) : String := String.ofList (lowerChars s.toList)

/-- Lowercases the letters A to Z alone. -/
def asciiLowerChar (c : Char) : Char :=
  if 0x41 ≤ c.toNat ∧ c.toNat ≤ 0x5A then Char.ofNat (c.toNat + 0x20) else c

def asciiLower (s : String) : String := String.ofList (s.toList.map asciiLowerChar)

end RecordQuery.Text
