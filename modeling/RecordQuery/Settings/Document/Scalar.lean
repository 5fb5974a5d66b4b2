import RecordQuery.Settings.Document.Cursor

/-!
# Scalars of a configuration document

The five ways to write a text: plain, between apostrophes, between quotation marks, and as a block
of lines that are kept or folded. A line break inside a scalar counts as a space, unless empty
lines follow it, which then count as line feeds.
-/

namespace RecordQuery.Settings.Document

inductive Style where
  | plain
  | quoted
  | literal
  | folded
deriving DecidableEq

abbrev Reading (α : Type) := Option (α × Cursor)

/-! ## Gaps between words -/

/-- What stands between two words of a scalar: blanks, or line breaks with blanks around them. -/
inductive Gap where
  | blanks (cs : List Char)
  | lines (first more : List Char)

namespace Gap

def none : Gap := blanks []

/-- What a gap counts as. -/
def text : Gap → List Char
  | blanks cs => cs
  | lines first more =>
    if first ≠ ['\n'] then first ++ more else if more.isEmpty then [' '] else more

def hasBreak : Gap → Bool
  | blanks _ => false
  | lines _ _ => true

end Gap

/-- Reads on to the end of a gap. No tab may stand before the column `limit` of a new line. -/
def readGap? (limit : Nat) : (fuel : Nat) → Gap → Cursor → Reading Gap
  | 0, gap, cursor => some (gap, cursor)
  | fuel + 1, gap, cursor =>
    match cursor.next?, gap with
    | some c, .blanks cs =>
      if isGap c then readGap? limit fuel (.blanks (cs ++ [c])) (cursor.skip 1)
      else if isBreak c then readGap? limit fuel (.lines cursor.breakText []) cursor.skipBreak
      else some (gap, cursor)
    | some c, .lines first more =>
      if isGap c then
        if c = '\t' ∧ cursor.column < limit then none
        else readGap? limit fuel gap (cursor.skip 1)
      else if isBreak c then
        readGap? limit fuel (.lines first (more ++ cursor.breakText)) cursor.skipBreak
      else some (gap, cursor)
    | none, _ => some (gap, cursor)

/-! ## Plain scalars -/

/-- The signs that stand for themselves between brackets and end a plain scalar there. -/
def isFlowSign (c : Char) : Bool :=
  c == ',' || c == '[' || c == ']' || c == '\x7b' || c == '\x7d'

/-- The signs with which no plain scalar starts. -/
def isIndicator (c : Char) : Bool :=
  isFlowSign c || c ∈ ['-', '?', ':', '#', '&', '*', '!', '|', '>', '\'', '"', '%', '@', '\x60']

/-- A plain scalar starts here: with a sign only if a word follows it directly. -/
def startsPlain (inFlow : Bool) (cursor : Cursor) : Bool :=
  match cursor.next? with
  | none => false
  | some c =>
    (!isIndicator c && !isGapOrBreak c) ||
      (c == '-' && !(cursor.at? 1).any isGap) ||
      (!inFlow && (c == '?' || c == ':') && !cursor.endsWordAt 1)

/-- A word of a plain scalar. It ends before a colon that ends a key and, between brackets, before
a sign of theirs; a colon right before such a sign is refused. -/
def readWord? (inFlow : Bool) : (fuel : Nat) → (before : List Char) → Cursor → Reading (List Char)
  | 0, before, cursor => some (before.reverse, cursor)
  | fuel + 1, before, cursor =>
    match cursor.next? with
    | none => some (before.reverse, cursor)
    | some c =>
      if isGapOrBreak c then some (before.reverse, cursor)
      else if inFlow && c == ':' && (cursor.at? 1).any (fun d => isFlowSign d || d == '?') then none
      else if (c == ':' && cursor.endsWordAt 1) || (inFlow && isFlowSign c) then
        some (before.reverse, cursor)
      else readWord? inFlow fuel (c :: before) (cursor.skip 1)

/-- A text, and whether the scalar that it is ended with a line. -/
abbrev PlainText := List Char × Bool

/-- The words of a plain scalar, with the gaps between them. It ends before a comment, a mark of
the document, or outside brackets a line that starts before the column `limit`. -/
def readWords? (inFlow : Bool) (limit : Nat) :
    (fuel : Nat) → (before : List Char) → Gap → Cursor → Reading PlainText
  | 0, before, gap, cursor => some ((before, gap.hasBreak), cursor)
  | fuel + 1, before, gap, cursor =>
    if cursor.isAnyMarker || cursor.sees '#' then some ((before, gap.hasBreak), cursor)
    else
      (readWord? inFlow (cursor.rest.length + 1) [] cursor).bind fun (word, cursor) =>
        let before := if word.isEmpty then before else before ++ gap.text ++ word
        let gap := if word.isEmpty then gap else Gap.none
        if cursor.next?.any isGapOrBreak then
          (readGap? limit (cursor.rest.length + 1) gap cursor).bind fun (gap, cursor) =>
            if !inFlow && cursor.column < limit then some ((before, gap.hasBreak), cursor)
            else readWords? inFlow limit fuel before gap cursor
        else some ((before, gap.hasBreak), cursor)

/-- A plain scalar, with the blanks and line breaks behind it. -/
def readPlain? (inFlow : Bool) (limit : Nat) (cursor : Cursor) : Reading PlainText :=
  readWords? inFlow limit (cursor.rest.length + 1) [] .none cursor

/-! ## Quoted scalars -/

def hexValue? (c : Char) : Option Nat :=
  if c.isDigit then some (c.toNat - '0'.toNat)
  else if 'a' ≤ c ∧ c ≤ 'f' then some (c.toNat - 'a'.toNat + 10)
  else if 'A' ≤ c ∧ c ≤ 'F' then some (c.toNat - 'A'.toNat + 10)
  else none

/-- The character whose number is given in this many hexadecimal digits. -/
def readNumbered? (count : Nat) (cursor : Cursor) : Reading Char :=
  let digits := cursor.rest.take count
  (digits.foldlM (fun n c => (hexValue? c).map fun d => n * 16 + d) 0).bind fun code =>
    if digits.length = count ∧ (Char.ofNat code).toNat = code then
      some (Char.ofNat code, cursor.skip count)
    else none

/-- The single characters that stand behind a backslash, and what they mean. -/
def escapes : List (Char × Nat) :=
  [('0', 0), ('a', 7), ('b', 8), ('t', 9), ('\t', 9), ('n', 10), ('v', 11), ('f', 12), ('r', 13),
    ('e', 27), (' ', 32), ('"', 34), ('/', 47), ('\\', 92), ('N', 0x85), ('_', 0xA0),
    ('L', 0x2028), ('P', 0x2029)]

def readEscape? (cursor : Cursor) : Reading Char :=
  match cursor.next? with
  | some 'x' => readNumbered? 2 (cursor.skip 1)
  | some 'u' => readNumbered? 4 (cursor.skip 1)
  | some 'U' => readNumbered? 8 (cursor.skip 1)
  | some c => (escapes.lookup c).map fun code => (Char.ofNat code, cursor.skip 1)
  | none => none

/-- The text up to the closing sign, which two apostrophes do not close; `before` is what has been
read, in reverse. Behind a backslash a line break counts as nothing. No mark of the document may
stand in the text. -/
def readQuoted? (sign : Char) : (fuel : Nat) → (before : List Char) → Cursor → Reading (List Char)
  | 0, _, _ => none
  | fuel + 1, before, cursor =>
    if cursor.isAnyMarker then none
    else
      match cursor.next? with
      | none => none
      | some c =>
        let onward (gap : Gap) (cursor : Cursor) : Reading (List Char) :=
          (readGap? 0 (cursor.rest.length + 1) gap cursor).bind fun (gap, cursor) =>
            readQuoted? sign fuel (gap.text.reverse ++ before) cursor
        if isGapOrBreak c then onward .none cursor
        else if c = sign then
          if sign = '\'' ∧ cursor.at? 1 = some '\'' then
            readQuoted? sign fuel ('\'' :: before) (cursor.skip 2)
          else some (before.reverse, cursor.skip 1)
        else if c = '\\' ∧ sign = '"' then
          if (cursor.at? 1).any isBreak then onward (.lines [] []) (cursor.skip 1).skipBreak
          else
            (readEscape? (cursor.skip 1)).bind fun (c, cursor) =>
              readQuoted? sign fuel (c :: before) cursor
        else readQuoted? sign fuel (c :: before) (cursor.skip 1)

/-! ## Blocks of lines -/

/-- What becomes of the line breaks at the end of a block. -/
inductive Ending where
  | drop
  | keepOne
  | keepAll

/-- The signs behind the mark of a block: what becomes of its end, and how far it is indented. -/
def readBlockSigns? (cursor : Cursor) : Reading (Ending × Option Nat) :=
  let ending (cursor : Cursor) : Ending × Cursor :=
    if cursor.sees '+' then (.keepAll, cursor.skip 1)
    else if cursor.sees '-' then (.drop, cursor.skip 1)
    else (.keepOne, cursor)
  let width? (cursor : Cursor) : Reading (Option Nat) :=
    match cursor.next? with
    | some c =>
      if c = '0' then none
      else if c.isDigit then some (some (c.toNat - '0'.toNat), cursor.skip 1)
      else some (none, cursor)
    | none => some (none, cursor)
  if cursor.sees '+' || cursor.sees '-' then
    let (kept, cursor) := ending cursor
    (width? cursor).map fun (width, cursor) => ((kept, width), cursor)
  else
    (width? cursor).map fun (width, cursor) =>
      match width with
      | none => ((.keepOne, none), cursor)
      | some _ =>
        let (kept, cursor) := ending cursor
        ((kept, width), cursor)

/-- Empty lines before a line of a block: the widest column met and the line breaks. While the
indent of the block is not known, all spaces count as indent. -/
def readBlockBreaks? (indent : Option Nat) :
    (fuel widest : Nat) → (breaks : List Char) → Cursor → Reading (Nat × List Char)
  | 0, widest, breaks, cursor => some ((widest, breaks), cursor)
  | fuel + 1, widest, breaks, cursor =>
    let spaces := (cursor.takeWhile (· == ' ')).1.length
    let cursor :=
      cursor.skip (match indent with
        | some column => min spaces (column - cursor.column)
        | none => spaces)
    let widest := max widest cursor.column
    if indent.all (fun column => cursor.column < column) && cursor.sees '\t' then none
    else if cursor.next?.any isBreak then
      readBlockBreaks? indent fuel widest (breaks ++ cursor.breakText) cursor.skipBreak
    else some ((widest, breaks), cursor)

/-- The lines of a block at one indent. `first` is the line break read last, `more` those of the
empty lines behind it, and `wasBlank` tells that the line before started with a blank. -/
def readBlockLines? (isLiteral : Bool) (indent : Nat) :
    (fuel : Nat) → (before first more : List Char) → (wasBlank : Bool) → Cursor →
    Reading (List Char × List Char × List Char)
  | 0, before, first, more, _, cursor => some ((before, first, more), cursor)
  | fuel + 1, before, first, more, wasBlank, cursor =>
    if cursor.column ≠ indent || cursor.rest.isEmpty then some ((before, first, more), cursor)
    else
      let isBlank := cursor.next?.any isGap
      let joint :=
        if !isLiteral && first == ['\n'] && !wasBlank && !isBlank then
          (if more.isEmpty then [' '] else [])
        else first
      let (line, behind) := cursor.takeWhile fun _ => true
      let after := if behind.next?.any isBreak then behind.skipBreak else behind
      (readBlockBreaks? (some indent) (after.rest.length + 1) 0 [] after).bind
        fun ((_, breaks), onward) =>
          readBlockLines? isLiteral indent fuel (before ++ joint ++ more ++ line) behind.breakText
            breaks isBlank onward

/-- A block of lines behind its mark; `outer` is the least column that its lines may have. -/
def readBlock? (isLiteral : Bool) (outer : Nat) (cursor : Cursor) : Reading (List Char) :=
  (readBlockSigns? cursor).bind fun ((ending, width), cursor) =>
    let cursor := cursor.skipWhile isGap
    let cursor := if cursor.sees '#' then cursor.skipWhile fun _ => true else cursor
    if cursor.inLine then none
    else
      let start := if cursor.rest.isEmpty then cursor else cursor.skipBreak
      let given := width.map fun width => outer - 1 + width
      (readBlockBreaks? given (start.rest.length + 1) 0 [] start).bind
        fun ((widest, breaks), cursor) =>
          let indent := given.getD (max (max widest outer) 1)
          (readBlockLines? isLiteral indent (cursor.rest.length + 1) [] [] breaks false cursor).map
            fun ((text, first, more), cursor) =>
              let kept :=
                match ending with
                | .drop => []
                | .keepOne => first
                | .keepAll => first ++ more
              (text ++ kept, cursor)

end RecordQuery.Settings.Document
