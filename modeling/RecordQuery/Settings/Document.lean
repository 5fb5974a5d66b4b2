import RecordQuery.Settings.Document.Token

/-!
# Configuration documents

A document in which settings are written: one mapping of names to scalars and to lists of scalars,
in block form or in flow form. Anything deeper is refused, and so is a second document. A scalar
may carry an anchor, by which aliases repeat it.
-/

namespace RecordQuery.Settings

open Document

structure Scalar where
  style : Style
  tag : Option String
  text : String
deriving DecidableEq

/-- The scalar of a value that is left out. -/
def Scalar.empty : Scalar := ⟨.plain, none, ""⟩

inductive Node where
  | scalar (s : Scalar)
  | sequence (items : List Scalar)
deriving DecidableEq

namespace Document

/-- The scalars that carry an anchor; the last one of a name counts. -/
abbrev Anchors := List (String × Option Scalar)

/-- The tokens that are left, and the anchors met. -/
structure Rest where
  tokens : List Token
  anchors : Anchors

abbrev Piece (α : Type) := Option (α × Rest)

namespace Rest

def next? (rest : Rest) : Option Token := rest.tokens.head?

def drop (rest : Rest) : Rest := { rest with tokens := rest.tokens.drop 1 }

def sees (rest : Rest) (tokens : List Token) : Bool := rest.next?.any tokens.contains

end Rest

/-! ## Scalars -/

/-- What is known of the tags of one document: the standard ones have a short form. -/
def tagName? (handle suffix : String) : Option String :=
  if handle = "!!" then some ("tag:yaml.org,2002:" ++ suffix)
  else if handle = "!" ∨ handle = "" then some (handle ++ suffix)
  else none

structure Properties where
  anchor : Option String
  tag : Option String

namespace Properties

def none : Properties := ⟨.none, .none⟩

def isNone (p : Properties) : Bool := p.anchor.isNone && p.tag.isNone

/-- The tag of the scalar that follows; an exclamation mark alone says nothing. -/
def scalarTag (p : Properties) : Option String := p.tag.filter (· ≠ "!")

/-- Notes what carries the anchor. -/
def note (p : Properties) (scalar : Option Scalar) (rest : Rest) : Rest :=
  match p.anchor with
  | some name => { rest with anchors := (name, scalar) :: rest.anchors }
  | .none => rest

end Properties

/-- The properties at the front, each at most once. -/
def readProperties? (rest : Rest) : Piece Properties :=
  let tagged (tokens : List Token) (anchor : Option String) : Piece Properties :=
    match tokens with
    | .tag handle suffix :: tokens =>
      (tagName? handle suffix).map fun name => (⟨anchor, some name⟩, { rest with tokens := tokens })
    | _ => some (⟨anchor, none⟩, { rest with tokens := tokens })
  match rest.tokens with
  | .anchor name :: tokens => tagged tokens (some name)
  | .tag handle suffix :: .anchor name :: tokens =>
    (tagName? handle suffix).map fun tag => (⟨some name, some tag⟩, { rest with tokens := tokens })
  | tokens => tagged tokens none

/-- A scalar or an alias of one. Behind properties the scalar may be left out. -/
def readScalar? (rest : Rest) : Piece Scalar :=
  match rest.tokens with
  | .alias name :: tokens =>
    ((rest.anchors.lookup name).bind id).map fun scalar => (scalar, { rest with tokens := tokens })
  | _ =>
    (readProperties? rest).bind fun (properties, rest) =>
      let noted (scalar : Scalar) (rest : Rest) : Piece Scalar :=
        some (scalar, properties.note (some scalar) rest)
      match rest.tokens with
      | .scalar style text :: tokens =>
        noted ⟨style, properties.scalarTag, text⟩ { rest with tokens := tokens }
      | tokens =>
        if properties.isNone || tokens.head?.any (fun token => token ∈
            [.flowSequence, .flowMapping, .blockSequence, .blockMapping]) then none
        else noted ⟨.plain, properties.tag, ""⟩ rest

/-- A scalar, unless one of these tokens shows that it is left out. -/
def readScalarBefore? (ends : List Token) (rest : Rest) : Piece Scalar :=
  if rest.sees ends then some (.empty, rest) else readScalar? rest

/-! ## Sequences -/

/-- The items of a sequence between brackets, behind the opening one. -/
def readFlowItems? : (fuel : Nat) → (items : List Scalar) → Rest → Piece (List Scalar)
  | 0, _, _ => none
  | fuel + 1, items, rest =>
    if rest.sees [.flowSequenceEnd] then some (items, rest.drop)
    else
      (readScalar? rest).bind fun (item, rest) =>
        let items := items ++ [item]
        if rest.sees [.flowEntry] then readFlowItems? fuel items rest.drop
        else if rest.sees [.flowSequenceEnd] then some (items, rest.drop)
        else none

/-- Items behind hyphens, each left out before one of the tokens in `ends`. -/
def readHyphenItems? (ends : List Token) :
    (fuel : Nat) → (items : List Scalar) → Rest → Piece (List Scalar)
  | 0, _, _ => none
  | fuel + 1, items, rest =>
    if rest.sees [.blockEntry] then
      (readScalarBefore? (.blockEntry :: ends) rest.drop).bind fun (item, rest) =>
        readHyphenItems? ends fuel (items ++ [item]) rest
    else some (items, rest)

/-- A scalar or a sequence. The hyphens of a sequence may stand in the column of the keys around
it when `isBlock` holds. -/
def readNode? (isBlock : Bool) (rest : Rest) : Piece Node :=
  let fuel := rest.tokens.length + 1
  (readProperties? rest).bind fun (properties, behind) =>
    let sequence (items : Piece (List Scalar)) : Piece Node :=
      items.map fun (items, rest) => (.sequence items, properties.note none rest)
    match behind.next? with
    | some .flowSequence => sequence (readFlowItems? fuel [] behind.drop)
    | some .blockSequence =>
      if isBlock then
        sequence ((readHyphenItems? [.blockEnd] fuel [] behind.drop).bind fun (items, rest) =>
          if rest.sees [.blockEnd] then some (items, rest.drop) else none)
      else none
    | some .blockEntry =>
      if isBlock then sequence (readHyphenItems? [.key, .value, .blockEnd] fuel [] behind)
      else none
    | _ => (readScalar? rest).map fun (s, rest) => (.scalar s, rest)

/-! ## Mappings -/

/-- A list of entries; a name may still be there twice. -/
abbrev NodeEntries := List (String × Node)

/-- An entry behind the token of its key; what is left out ends before one of the tokens in
`ends`. -/
def readPair? (isBlock : Bool) (ends : List Token) (rest : Rest) : Piece (String × Node) :=
  (readScalarBefore? (.value :: ends) rest).bind fun (key, rest) =>
    if !rest.sees [.value] || rest.drop.sees ends then
      some ((key.text, .scalar .empty), if rest.sees [.value] then rest.drop else rest)
    else (readNode? isBlock rest.drop).map fun (node, rest) => ((key.text, node), rest)

def readBlockEntries? : (fuel : Nat) → (entries : NodeEntries) → Rest → Piece NodeEntries
  | 0, _, _ => none
  | fuel + 1, entries, rest =>
    if rest.sees [.key] then
      (readPair? true [.key, .blockEnd] rest.drop).bind fun (entry, rest) =>
        readBlockEntries? fuel (entries ++ [entry]) rest
    else if rest.sees [.blockEnd] then some (entries, rest.drop)
    else none

/-- The entries of a mapping between braces, behind the opening one. A key without a colon has a
value that is left out. -/
def readFlowEntries? : (fuel : Nat) → (entries : NodeEntries) → Rest → Piece NodeEntries
  | 0, _, _ => none
  | fuel + 1, entries, rest =>
    if rest.sees [.flowMappingEnd] then some (entries, rest.drop)
    else
      let entry : Piece (String × Node) :=
        if rest.sees [.key] then readPair? false [.flowEntry, .flowMappingEnd] rest.drop
        else (readScalar? rest).map fun (key, rest) => ((key.text, .scalar .empty), rest)
      entry.bind fun (entry, rest) =>
        let entries := entries ++ [entry]
        if rest.sees [.flowEntry] then readFlowEntries? fuel entries rest.drop
        else if rest.sees [.flowMappingEnd] then some (entries, rest.drop)
        else none

/-! ## Documents -/

/-- The mapping that a document is. Where nothing is written there are no entries. -/
def readMapping? (rest : Rest) : Piece NodeEntries :=
  let fuel := rest.tokens.length + 1
  (readProperties? rest).bind fun (_, behind) =>
    match behind.next? with
    | some .blockMapping => readBlockEntries? fuel [] behind.drop
    | some .flowMapping => readFlowEntries? fuel [] behind.drop
    | none | some .documentStart | some .documentEnd => some ([], behind)
    | _ => none

/-- The entries of the one document in the tokens. A directive comes before the mark of a start. -/
def ofTokens? (tokens : List Token) : Option NodeEntries :=
  let content : Option (List Token) :=
    match tokens with
    | .version :: .documentStart :: tokens => some tokens
    | .documentStart :: tokens => some tokens
    | .documentEnd :: _ => none
    | tokens => some tokens
  content.bind fun tokens =>
    (readMapping? ⟨tokens, []⟩).bind fun (entries, rest) =>
      if rest.tokens.all (· == .documentEnd) then some entries else none

def read? (text : String) : Option NodeEntries := (tokens? text).bind ofTokens?

end Document

end RecordQuery.Settings
