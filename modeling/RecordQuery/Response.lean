import RecordQuery.FieldErrors

/-!
# Responses

The answer to a request: a status and, mostly, a body.
-/

namespace RecordQuery

inductive Status where
  | ok
  | created
  | noContent
  | badRequest
  | unauthorized
  | notFound
  | internalServerError
deriving DecidableEq, Repr

def Status.code : Status → Nat
  | ok => 200
  | created => 201
  | noContent => 204
  | badRequest => 400
  | unauthorized => 401
  | notFound => 404
  | internalServerError => 500

def Status.isSuccess (status : Status) : Bool := status.code < 300

structure Response where
  status : Status
  body : Option Json

namespace Response

def ok (body : Json) : Response := ⟨.ok, some body⟩

def created (body : Json) : Response := ⟨.created, some body⟩

def noContent : Response := ⟨.noContent, none⟩

def notFound : Response := ⟨.notFound, some (.object [("detail", .string "Not found.")])⟩

def validation (errors : FieldErrors) : Response := ⟨.badRequest, some errors.toJson⟩

def constraint (detail : String) : Response :=
  ⟨.badRequest, some (.object [("detail", .string detail),
    ("error", .string "Database constraint violation")])⟩

def unauthorized (detail : String) : Response :=
  ⟨.unauthorized, some (.object [("detail", .string detail)])⟩

def internal (error detail : String) : Response :=
  ⟨.internalServerError, some (.object [("detail", .string detail), ("error", .string error)])⟩

def page (count : Nat) (next previous : Option String) (results : List Json) : Response :=
  ok (.object [
    ("count", .ofNat count),
    ("next", .ofOption (next.map .string)),
    ("previous", .ofOption (previous.map .string)),
    ("results", .array results)])

def toJson (response : Response) : Json :=
  match response.body with
  | some body => .object [("status", .ofNat response.status.code), ("body", body)]
  | none => .object [("status", .ofNat response.status.code)]

end Response

end RecordQuery
