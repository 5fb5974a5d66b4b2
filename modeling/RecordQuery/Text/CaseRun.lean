/-!
# Runs of letters with one case shift

Letters beyond ASCII that differ by case mostly come in runs: neighbouring letters, or every
second letter, shifted by one distance. A case mapping is a list of such runs.
-/

namespace RecordQuery.Text

/-- The letters `first`, `first + step`, … up to `last`, each moved by `shift`. -/
structure CaseRun where
  first : Nat
  last : Nat
  step : Nat
  shift : Int

namespace CaseRun

def covers (run : CaseRun) (code : Nat) : Bool :=
  run.first ≤ code && code ≤ run.last && (code - run.first) % run.step == 0

/-- The image of a letter under the first run that covers it; other letters stay. -/
def apply (runs : List CaseRun) (c : Char) : Char :=
  match runs.find? (·.covers c.toNat) with
  | some run => Char.ofNat (Int.toNat (c.toNat + run.shift))
  | none => c

end CaseRun

end RecordQuery.Text
