import RecordQuery.Json.Number
import RecordQuery.Json.Token

/-!
# Passing over JSON

The text behind a value that nobody needs. Such a value has to be well formed, but its numbers may
be of any size, its strings may hold half of a surrogate pair, and it may be nested to any depth.
-/

namespace RecordQuery.Json

mutual

/-- The rest of the text behind a value. -/
def skipValue? : (fuel : Nat) → List Char → Option (List Char)
  | 0, _ => none
  | fuel + 1, cs =>
    match skipSpace cs with
    | [] => none
    | c :: rest =>
      if c = '"' then skipString? rest
      else if c = '[' then
        match skipSpace rest with
        | ']' :: rest => some rest
        | rest => skipElements? fuel rest
      else if c = '\x7b' then
        match skipSpace rest with
        | '\x7d' :: rest => some rest
        | rest => skipEntries? fuel rest
      else if c = 'n' then expect? "ull".toList rest
      else if c = 't' then expect? "rue".toList rest
      else if c = 'f' then expect? "alse".toList rest
      else (JsonNumber.scan? (c :: rest)).map fun (_, rest) => rest

/-- The rest of the text behind the closing bracket of an array with at least one value. -/
def skipElements? : (fuel : Nat) → List Char → Option (List Char)
  | 0, _ => none
  | fuel + 1, cs =>
    (skipValue? fuel cs).bind fun rest =>
      match skipSpace rest with
      | ',' :: rest => skipElements? fuel rest
      | ']' :: rest => some rest
      | _ => none

/-- The rest of the text behind the closing brace of an object with at least one entry. -/
def skipEntries? : (fuel : Nat) → List Char → Option (List Char)
  | 0, _ => none
  | fuel + 1, cs =>
    match skipSpace cs with
    | '"' :: rest =>
      (skipString? rest).bind fun rest =>
        match skipSpace rest with
        | ':' :: rest =>
          (skipValue? fuel rest).bind fun rest =>
            match skipSpace rest with
            | ',' :: rest => skipEntries? fuel rest
            | '\x7d' :: rest => some rest
            | _ => none
        | _ => none
    | _ => none

end

end RecordQuery.Json
