/-!
# Places in a configuration document

A place in the text of a document: the text behind it, and where it stands. Five characters break
lines; a carriage return and a line feed together break one line.
-/

namespace RecordQuery.Settings.Document

/-- A space or a tab. -/
def isGap (c : Char) : Bool := c == ' ' || c == '\t'

def isBreak (c : Char) : Bool :=
  c == '\n' || c == '\r' || c == '\u0085' || c == '\u2028' || c == '\u2029'

def isGapOrBreak (c : Char) : Bool := isGap c || isBreak c

def isAllowed (c : Char) : Bool :=
  let code := c.toNat
  code == 9 || code == 10 || code == 13 || (0x20 ≤ code && code ≤ 0x7E) || code == 0x85 ||
    (0xA0 ≤ code && code ≤ 0xFFFD) || 0x10000 ≤ code

/-- The byte order mark, which may stand before a document. -/
def orderMark : Char := '\uFEFF'

structure Cursor where
  /-- The text from the place on. -/
  rest : List Char
  /-- The number of characters before the place. -/
  index : Nat
  line : Nat
  column : Nat

namespace Cursor

def ofChars (cs : List Char) : Cursor := ⟨cs, 0, 0, 0⟩

def next? (cursor : Cursor) : Option Char := cursor.rest.head?

def at? (cursor : Cursor) (ahead : Nat) : Option Char := cursor.rest[ahead]?

def sees (cursor : Cursor) (c : Char) : Bool := cursor.next? == some c

def skip (cursor : Cursor) (count : Nat) : Cursor :=
  { cursor with
    rest := cursor.rest.drop count
    index := cursor.index + count
    column := cursor.column + count }

/-- The characters of the line as long as they pass a test, and the place behind them. -/
def takeWhile (cursor : Cursor) (test : Char → Bool) : List Char × Cursor :=
  let taken := cursor.rest.takeWhile fun c => test c && !isBreak c
  (taken, cursor.skip taken.length)

def skipWhile (cursor : Cursor) (test : Char → Bool) : Cursor := (cursor.takeWhile test).2

def skipBreak (cursor : Cursor) : Cursor :=
  let count :=
    match cursor.rest with
    | '\r' :: '\n' :: _ => 2
    | _ => 1
  ⟨cursor.rest.drop count, cursor.index + count, cursor.line + 1, 0⟩

/-- What a line break stands for in the text of a scalar: a line feed, but for the two separators,
which stand for themselves. -/
def breakText (cursor : Cursor) : List Char :=
  match cursor.rest with
  | c :: _ => if c = '\u2028' ∨ c = '\u2029' then [c] else if isBreak c then ['\n'] else []
  | [] => []

/-- A blank, a line break or the end of the text follows some places on. -/
def endsWordAt (cursor : Cursor) (ahead : Nat) : Bool := (cursor.at? ahead).all isGapOrBreak

/-- Neither a line break nor the end of the text follows. -/
def inLine (cursor : Cursor) : Bool := cursor.next?.any fun c => !isBreak c

/-- The line starts here with three signs that stand alone. -/
def isMarker (cursor : Cursor) (sign : Char) : Bool :=
  cursor.column == 0 && cursor.rest.take 3 == [sign, sign, sign] && cursor.endsWordAt 3

/-- A mark of the start or of the end of a document stands here. -/
def isAnyMarker (cursor : Cursor) : Bool := cursor.isMarker '-' || cursor.isMarker '.'

end Cursor

end RecordQuery.Settings.Document
