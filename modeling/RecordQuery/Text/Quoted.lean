import RecordQuery.Text.HiddenTable
import RecordQuery.Text.Ranges

/-!
# Quoted text

Text between quotation marks as messages show it: quotation marks, backslashes and the common
control characters behind a backslash, and every other character that does not show by its number.
-/

namespace RecordQuery.Text

def isHidden (c : Char) : Bool :=
  let code := c.toNat
  code < 0x20 || code == 0x7F || inRanges hiddenRanges code

def quotedChar (c : Char) : List Char :=
  if c = '\x00' then ['\\', '0']
  else if c = '\t' then ['\\', 't']
  else if c = '\r' then ['\\', 'r']
  else if c = '\n' then ['\\', 'n']
  else if c = '\\' ∨ c = '"' then ['\\', c]
  else if isHidden c then ['\\', 'u', '\x7b'] ++ Nat.toDigits 16 c.toNat ++ ['\x7d']
  else [c]

def quoted (s : String) : String :=
  String.ofList ('"' :: s.toList.flatMap quotedChar ++ ['"'])

end RecordQuery.Text
