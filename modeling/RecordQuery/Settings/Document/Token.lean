import RecordQuery.Settings.Document.Scalar

/-!
# Tokens of a configuration document

The signs and scalars of a document in order. In block form the columns of the lines say where
mappings and sequences begin and end. A key is known as one only when the colon behind it is met;
its token, and that of the mapping that it begins, are then put in before it.
-/

namespace RecordQuery.Settings.Document

inductive Token where
  /-- A directive that names a version of the format. -/
  | version
  | documentStart
  | documentEnd
  | blockSequence
  | blockMapping
  | blockEnd
  | flowSequence
  | flowSequenceEnd
  | flowMapping
  | flowMappingEnd
  | blockEntry
  | flowEntry
  | key
  | value
  | alias (name : String)
  | anchor (name : String)
  | tag (handle suffix : String)
  | scalar (style : Style) (text : String)
deriving DecidableEq

/-- A token that may turn out to be a key. -/
structure PossibleKey where
  /-- The number of tokens before it. -/
  place : Nat
  index : Nat
  line : Nat
  column : Nat
  /-- The line is none of the mapping unless it is a key. -/
  isRequired : Bool

/-- The tokens read so far, and what is known of the surroundings of the place reached. -/
structure Tokens where
  cursor : Cursor
  /-- The tokens, the last one first. -/
  read : List Token
  /-- The columns of the blocks around the place, the innermost first. -/
  blocks : List Nat
  /-- The possible key in each of the brackets around the place, the innermost first. -/
  brackets : List (Option PossibleKey)
  /-- The possible key outside all brackets. -/
  outside : Option PossibleKey
  /-- A key may start at the place. -/
  allowsKey : Bool

namespace Tokens

def ofChars (cs : List Char) : Tokens := ⟨.ofChars cs, [], [], [], none, true⟩

def inFlow (t : Tokens) : Bool := !t.brackets.isEmpty

/-- The least column of the lines of a value in the innermost block. -/
def valueColumn (t : Tokens) : Nat :=
  match t.blocks with
  | column :: _ => column + 1
  | [] => 0

/-- The possible key in the innermost brackets. -/
def key? (t : Tokens) : Option PossibleKey :=
  match t.brackets with
  | key :: _ => key
  | [] => t.outside

def setKey (t : Tokens) (key : Option PossibleKey) : Tokens :=
  match t.brackets with
  | _ :: outer => { t with brackets := key :: outer }
  | [] => { t with outside := key }

def push (t : Tokens) (token : Token) : Tokens := { t with read := token :: t.read }

def insert (t : Tokens) (place : Nat) (token : Token) : Tokens :=
  let newer := t.read.length - place
  { t with read := t.read.take newer ++ token :: t.read.drop newer }

/-- Adds a token and moves on behind the sign that it is. -/
def pushSign (t : Tokens) (token : Token) (length : Nat) : Tokens :=
  { t.push token with cursor := t.cursor.skip length }

/-! ## Keys -/

/-- Gives up the possible key, which must not be a required one. -/
def dropKey? (t : Tokens) : Option Tokens :=
  if t.key?.any PossibleKey.isRequired then none else some (t.setKey none)

def noteKey? (t : Tokens) : Option Tokens :=
  if t.allowsKey then
    t.dropKey?.map fun t =>
      t.setKey (some {
        place := t.read.length
        index := t.cursor.index
        line := t.cursor.line
        column := t.cursor.column
        isRequired := !t.inFlow && t.blocks.head? == some t.cursor.column })
  else some t

/-- A key and its colon stand on one line, less than 1025 characters apart. -/
def isStale (cursor : Cursor) (key : PossibleKey) : Bool :=
  key.line < cursor.line || key.index + 1024 < cursor.index

def dropStale? (t : Tokens) : Option Tokens :=
  let keys := t.outside :: t.brackets
  let isLost (key : Option PossibleKey) : Bool :=
    key.any fun key => key.isRequired && isStale t.cursor key
  if keys.any isLost then none
  else
    let fresh (key : Option PossibleKey) := key.filter fun key => !isStale t.cursor key
    some { t with outside := fresh t.outside, brackets := t.brackets.map fresh }

/-! ## Blocks -/

/-- Begins a block at a column, unless the innermost one stands there already. -/
def beginBlock (t : Tokens) (column place : Nat) (token : Token) : Tokens :=
  if t.inFlow || t.blocks.head?.any (column ≤ ·) then t
  else { t.insert place token with blocks := column :: t.blocks }

/-- Ends the blocks that stand behind a column; without a column, all of them. -/
def endBlocks (t : Tokens) (column : Option Nat) : Tokens :=
  if t.inFlow then t
  else
    let ended := t.blocks.takeWhile fun block => column.all (· < block)
    { t with
      read := List.replicate ended.length .blockEnd ++ t.read
      blocks := t.blocks.drop ended.length }

/-! ## The next token -/

/-- Moves on behind blanks, line breaks and comments. Where a key may start in a block, a tab is
none of the blanks. -/
def skipBlanks : (fuel : Nat) → Tokens → Tokens
  | 0, t => t
  | fuel + 1, t =>
    let cursor := t.cursor.skipWhile fun c => c == ' ' || (c == '\t' && (t.inFlow || !t.allowsKey))
    let cursor := if cursor.sees '#' then cursor.skipWhile fun _ => true else cursor
    if cursor.next?.any isBreak then
      skipBlanks fuel
        { t with cursor := cursor.skipBreak, allowsKey := t.allowsKey || !t.inFlow }
    else { t with cursor := cursor }

/-- A directive. Only one that gives the version 1.1 or 1.2 is known. -/
def readDirective? (cursor : Cursor) : Option Cursor :=
  let (name, cursor) := (cursor.skip 1).takeWhile fun c => !isGap c
  let cursor := cursor.skipWhile isGap
  let (version, cursor) := cursor.takeWhile fun c => c.isDigit || c == '.'
  let cursor := cursor.skipWhile isGap
  let cursor := if cursor.sees '#' then cursor.skipWhile fun _ => true else cursor
  if name = "YAML".toList ∧ (version = "1.1".toList ∨ version = "1.2".toList) ∧ !cursor.inLine then
    some cursor
  else none

def isNameChar (c : Char) : Bool := c.isAlphanum || c == '_' || c == '-'

def readName? (cursor : Cursor) : Reading String :=
  let (name, cursor) := (cursor.skip 1).takeWhile isNameChar
  if name.isEmpty then none
  else if cursor.endsWordAt 0 ||
      cursor.next?.any (fun c => c ∈ ['?', ':', ',', ']', '\x7d', '%', '@', '\x60']) then
    some (String.ofList name, cursor)
  else none

def isTagChar (c : Char) : Bool :=
  isNameChar c || c ∈ [';', '/', '?', ':', '@', '&', '=', '+', '$', '.', '!', '~', '*', '\'', '(',
    ')']

/-- A tag: between angle brackets, with a handle between exclamation marks, or behind one. -/
def readTag? (inFlow : Bool) (cursor : Cursor) : Reading (String × String) :=
  let ended (handle suffix : String) (cursor : Cursor) : Reading (String × String) :=
    if cursor.endsWordAt 0 || (inFlow && cursor.sees ',') then some ((handle, suffix), cursor)
    else none
  if cursor.at? 1 = some '<' then
    let (name, cursor) :=
      (cursor.skip 2).takeWhile fun c => isTagChar c || c == ',' || c == '[' || c == ']'
    if name.isEmpty || !cursor.sees '>' then none
    else ended "" (String.ofList name) (cursor.skip 1)
  else
    let (name, behind) := (cursor.skip 1).takeWhile isNameChar
    if behind.sees '!' then
      let (suffix, cursor) := (behind.skip 1).takeWhile isTagChar
      if suffix.isEmpty then none
      else ended (String.ofList ('!' :: name ++ ['!'])) (String.ofList suffix) cursor
    else
      let (suffix, cursor) := (cursor.skip 1).takeWhile isTagChar
      ended "!" (String.ofList suffix) cursor

def pushScalar? (t : Tokens) (style : Style) (read : Cursor → Reading PlainText) : Option Tokens :=
  t.noteKey?.bind fun t =>
    (read t.cursor).map fun ((text, endsLine), cursor) =>
      { t.push (.scalar style (String.ofList text)) with cursor := cursor, allowsKey := endsLine }

/-- The colon behind a key. A key without a token of its own stands where a key may start. -/
def pushValue? (t : Tokens) : Option Tokens :=
  match t.key? with
  | some key =>
    let t := (t.insert key.place .key).beginBlock key.column key.place .blockMapping
    some { (t.setKey none).pushSign .value 1 with allowsKey := false }
  | none =>
    if t.inFlow then some { t.pushSign .value 1 with allowsKey := false }
    else if t.allowsKey then
      let t := t.beginBlock t.cursor.column t.read.length .blockMapping
      some { t.pushSign .value 1 with allowsKey := true }
    else none

def pushNext? (t : Tokens) (c : Char) : Option Tokens :=
  let cursor := t.cursor
  let standsAlone := cursor.endsWordAt 1
  let opening (token : Token) : Option Tokens :=
    t.noteKey?.map fun t =>
      { t.pushSign token 1 with brackets := none :: t.brackets, allowsKey := true }
  let closing (token : Token) : Option Tokens :=
    t.dropKey?.map fun t =>
      { t.pushSign token 1 with brackets := t.brackets.drop 1, allowsKey := false }
  let named (token : String → Token) : Option Tokens :=
    t.noteKey?.bind fun t =>
      (readName? cursor).map fun (name, cursor) =>
        { t.push (token name) with cursor := cursor, allowsKey := false }
  let block (style : Style) : Option Tokens :=
    t.dropKey?.bind fun t =>
      (readBlock? (style == .literal) t.valueColumn (cursor.skip 1)).map fun (text, cursor) =>
        { t.push (.scalar style (String.ofList text)) with cursor := cursor, allowsKey := true }
  let marker (token : Token) : Option Tokens :=
    (t.endBlocks none).dropKey?.map fun t => { t.pushSign token 3 with allowsKey := false }
  if cursor.column = 0 ∧ c = '%' then
    (t.endBlocks none).dropKey?.bind fun t =>
      (readDirective? cursor).map fun cursor =>
        { t.push .version with cursor := cursor, allowsKey := false }
  else if cursor.isMarker '-' then marker .documentStart
  else if cursor.isMarker '.' then marker .documentEnd
  else if c = '[' then opening .flowSequence
  else if c = '\x7b' then opening .flowMapping
  else if c = ']' then closing .flowSequenceEnd
  else if c = '\x7d' then closing .flowMappingEnd
  else if c = ',' then
    t.dropKey?.map fun t => { t.pushSign .flowEntry 1 with allowsKey := true }
  else if c = '-' ∧ standsAlone then
    if !t.inFlow && !t.allowsKey then none
    else
      (t.beginBlock cursor.column t.read.length .blockSequence).dropKey?.map fun t =>
        { t.pushSign .blockEntry 1 with allowsKey := true }
  else if c = '?' ∧ (t.inFlow ∨ standsAlone) then
    if !t.inFlow && !t.allowsKey then none
    else
      (t.beginBlock cursor.column t.read.length .blockMapping).dropKey?.map fun t =>
        { t.pushSign .key 1 with allowsKey := !t.inFlow }
  else if c = ':' ∧ (t.inFlow ∨ standsAlone) then t.pushValue?
  else if c = '*' then named .alias
  else if c = '&' then named .anchor
  else if c = '!' then
    t.noteKey?.bind fun t =>
      (readTag? t.inFlow cursor).map fun ((handle, suffix), cursor) =>
        { t.push (.tag handle suffix) with cursor := cursor, allowsKey := false }
  else if c = '|' ∧ !t.inFlow then block .literal
  else if c = '>' ∧ !t.inFlow then block .folded
  else if c = '\'' ∨ c = '"' then
    t.pushScalar? .quoted fun cursor =>
      (readQuoted? c (cursor.rest.length + 1) [] (cursor.skip 1)).map fun (text, cursor) =>
        ((text, false), cursor)
  else if startsPlain t.inFlow cursor then
    t.pushScalar? .plain (readPlain? t.inFlow t.valueColumn)
  else none

/-- The tokens up to the end of the text, where all blocks end. -/
def complete? : (fuel : Nat) → Tokens → Option (List Token)
  | 0, _ => none
  | fuel + 1, t =>
    (t.skipBlanks (t.cursor.rest.length + 1)).dropStale?.bind fun t =>
      match t.cursor.next? with
      | some c => ((t.endBlocks (some t.cursor.column)).pushNext? c).bind fun t => complete? fuel t
      | none => (t.endBlocks none).dropKey?.map fun t => t.read.reverse

end Tokens

/-- The tokens of a text. A byte order mark may stand before it. -/
def tokens? (text : String) : Option (List Token) :=
  let cs := text.toList.dropWhile (· == orderMark)
  if cs.all isAllowed then (Tokens.ofChars cs).complete? (cs.length + 1) else none

end RecordQuery.Settings.Document
