import RecordQuery.Json.Decode
import RecordQuery.Record

/-!
# Lineages

A named record with a number, under another one of its kind or at the top: a category under its
parent, a person under a superior. What the record above is called is a matter of the form in
which a lineage is read and written.
-/

namespace RecordQuery

inductive Lineage where
  | top (id : UInt64) (name : String)
  | under (id : UInt64) (name : String) (above : Lineage)
deriving DecidableEq

namespace Lineage

def id : Lineage → UInt64
  | top id _ => id
  | under id _ _ => id

def name : Lineage → String
  | top _ name => name
  | under _ name _ => name

def make (id : UInt64) (name : String) : Option Lineage → Lineage
  | none => top id name
  | some above => under id name above

/-- The record itself, the one above it, and so on to the top. -/
def chain : Lineage → List Lineage
  | top id name => [top id name]
  | under id name above => under id name above :: chain above

structure Form where
  typeName : String
  /-- The name of the record above. -/
  link : String
  /-- The top is written with a null under the link, and not without one. -/
  writesNull : Bool

def encode (form : Form) : Lineage → Json
  | top id name =>
    .ofEntries ([("id", .number (.ofUInt64 id)), ("name", .string name)] ++
      if form.writesNull then [(form.link, .null)] else [])
  | under id name above =>
    .ofEntries [("id", .number (.ofUInt64 id)), ("name", .string name),
      (form.link, encode form above)]

def view (form : Form) : Lineage → Record
  | top id name =>
    .node [("id", .number (.unsigned id)), ("name", .text name)] [] none
  | under id name above =>
    .node [("id", .number (.unsigned id)), ("name", .text name)]
      [(form.link, [view form above])] none

/-! ## Reading -/

structure Draft where
  id : Option UInt64
  name : Option String
  above : Option (Option Lineage)

namespace Draft

def empty : Draft := ⟨none, none, none⟩

/-- The lineage of the parts; the number and the name have to be there. -/
def finish (draft : Draft) : Except DecodeError Lineage :=
  match draft.id, draft.name with
  | some id, some name => .ok (make id name (draft.above.getD none))
  | none, _ => .error (.missingField "id")
  | _, none => .error (.missingField "name")

end Draft

mutual

/-- Reads a lineage from an object, or from an array of its parts. -/
def decode (form : Form) : Json → Except DecodeError Lineage
  | .object entries => decodeEntries form .empty entries
  | .array values => decodeValues form values
  | value => Decode.mismatch value ("struct " ++ form.typeName)

def decodeEntries (form : Form) (draft : Draft) :
    List (String × Json) → Except DecodeError Lineage
  | [] => draft.finish
  | (key, value) :: rest =>
    if key = "id" then
      if draft.id.isSome then .error (.duplicateField key)
      else
        match Decode.unsigned value with
        | .ok id => decodeEntries form { draft with id := some id } rest
        | .error problem => .error problem
    else if key = "name" then
      if draft.name.isSome then .error (.duplicateField key)
      else
        match Decode.text value with
        | .ok name => decodeEntries form { draft with name := some name } rest
        | .error problem => .error problem
    else if key = form.link then
      if draft.above.isSome then .error (.duplicateField key)
      else if value.isNull then decodeEntries form { draft with above := some none } rest
      else
        match decode form value with
        | .ok above => decodeEntries form { draft with above := some (some above) } rest
        | .error problem => .error problem
    else decodeEntries form draft rest

def decodeValues (form : Form) : List Json → Except DecodeError Lineage
  | [] => .error (.invalidLength 0 (Decode.lengthName form.typeName 3))
  | [id] =>
    (Decode.unsigned id).bind fun _ =>
      .error (.invalidLength 1 (Decode.lengthName form.typeName 3))
  | [id, name] =>
    (Decode.unsigned id).bind fun id => (Decode.text name).map fun name => top id name
  | id :: name :: above :: rest =>
    (Decode.unsigned id).bind fun id =>
      (Decode.text name).bind fun name =>
        let above : Except DecodeError (Option Lineage) :=
          if above.isNull then .ok none else (decode form above).map some
        above.bind fun above =>
          if rest.isEmpty then .ok (make id name above)
          else .error (.invalidLength (3 + rest.length) "fewer elements in array")

end

end Lineage

end RecordQuery
