import RecordQuery.Json.Skip

/-!
# Reading JSON

Text as a value. Containers may be nested 127 deep. A guide says which entries of objects are
wanted: the value of any other entry is passed over and the entry left out. `read?` wants every
entry and keeps the entries of objects as they are written; `parse?` sorts them and keeps the last
value of a key that is written twice.
-/

namespace RecordQuery.Json

def depthLimit : Nat := 127

/-- Which entries are wanted, from place to place in a text. -/
structure Guide (Place : Type) where
  /-- The place of the value under a key of an object, if it is wanted. -/
  under? : Place → String → Option Place
  /-- The place of an element of an array, given its number. -/
  element : Place → Nat → Place

def Guide.everything : Guide Unit := ⟨fun _ _ => some (), fun _ _ => ()⟩

mutual

/-- A value at the start of the text, with `depth` more levels allowed. -/
def readValue? {Place : Type} (guide : Guide Place) :
    (fuel depth : Nat) → Place → List Char → Option (Json × List Char)
  | 0, _, _, _ => none
  | fuel + 1, depth, place, cs =>
    match skipSpace cs with
    | [] => none
    | c :: rest =>
      if c = '"' then (readString? rest.length.succ [] rest).map fun (s, rest) => (string s, rest)
      else if c = '[' then
        match depth, skipSpace rest with
        | 0, _ => none
        | _ + 1, ']' :: rest => some (array [], rest)
        | depth + 1, rest =>
          (readElements? guide fuel depth place 0 rest).map fun (values, rest) =>
            (array values, rest)
      else if c = '\x7b' then
        match depth, skipSpace rest with
        | 0, _ => none
        | _ + 1, '\x7d' :: rest => some (object [], rest)
        | depth + 1, rest =>
          (readEntries? guide fuel depth place rest).map fun (entries, rest) =>
            (object entries, rest)
      else if c = 'n' then (expect? "ull".toList rest).map fun rest => (null, rest)
      else if c = 't' then (expect? "rue".toList rest).map fun rest => (bool true, rest)
      else if c = 'f' then (expect? "alse".toList rest).map fun rest => (bool false, rest)
      else (JsonNumber.read? (c :: rest)).map fun (n, rest) => (number n, rest)

/-- The values of an array from the one numbered `index` up to its closing bracket, at least one. -/
def readElements? {Place : Type} (guide : Guide Place) :
    (fuel depth : Nat) → Place → (index : Nat) → List Char → Option (List Json × List Char)
  | 0, _, _, _, _ => none
  | fuel + 1, depth, place, index, cs =>
    (readValue? guide fuel depth (guide.element place index) cs).bind fun (value, rest) =>
      match skipSpace rest with
      | ',' :: rest =>
        (readElements? guide fuel depth place (index + 1) rest).map fun (values, rest) =>
          (value :: values, rest)
      | ']' :: rest => some ([value], rest)
      | _ => none

/-- The wanted entries of an object up to its closing brace; at least one entry is written. -/
def readEntries? {Place : Type} (guide : Guide Place) :
    (fuel depth : Nat) → Place → List Char → Option (List (String × Json) × List Char)
  | 0, _, _, _ => none
  | fuel + 1, depth, place, cs =>
    match skipSpace cs with
    | '"' :: rest =>
      (readString? rest.length.succ [] rest).bind fun (key, rest) =>
        match skipSpace rest with
        | ':' :: rest =>
          let entry : Option (List (String × Json) × List Char) :=
            match guide.under? place key with
            | some inner =>
              (readValue? guide fuel depth inner rest).map fun (value, rest) =>
                ([(key, value)], rest)
            | none => (skipValue? fuel rest).map fun rest => ([], rest)
          entry.bind fun (entry, rest) =>
            match skipSpace rest with
            | ',' :: rest =>
              (readEntries? guide fuel depth place rest).map fun (entries, rest) =>
                (entry ++ entries, rest)
            | '\x7d' :: rest => some (entry, rest)
            | _ => none
        | _ => none
    | _ => none

end

/-- The value that a text is, as far as it is wanted, entries as written. -/
def readWith? {Place : Type} (guide : Guide Place) (start : Place) (text : String) : Option Json :=
  let cs := text.toList
  (readValue? guide (2 * cs.length + 2) depthLimit start cs).bind fun (value, rest) =>
    if (skipSpace rest).isEmpty then some value else none

/-- The value that a text is, entries as written. -/
def read? (text : String) : Option Json := readWith? Guide.everything () text

/-- The value that a text is, with the entries of every object sorted. -/
def parse? (text : String) : Option Json := (read? text).map sorted

end RecordQuery.Json
