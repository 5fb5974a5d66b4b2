/-!
# Ranges of characters

A property of characters as a list of ranges of their numbers, each range with both ends.
-/

namespace RecordQuery.Text

def inRanges (ranges : List (Nat × Nat)) (code : Nat) : Bool :=
  ranges.any fun range => range.1 ≤ code && code ≤ range.2

end RecordQuery.Text
