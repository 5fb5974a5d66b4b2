import RecordQuery.Text.FoldingTable

/-!
# Case folding

Two characters are the same up to case when their simple foldings are equal. The folding keeps
the length of a text, so it can be compared character by character.
-/

namespace RecordQuery.Text

def foldChar (c : Char) : Char :=
  let code := c.toNat
  if code < 0x80 then (if 0x41 ≤ code ∧ code ≤ 0x5A then Char.ofNat (code + 0x20) else c)
  else CaseRun.apply foldingRuns c

/-- The characters differ at most in case. -/
def sameUpToCase (a b : Char) : Bool := foldChar a == foldChar b

end RecordQuery.Text
