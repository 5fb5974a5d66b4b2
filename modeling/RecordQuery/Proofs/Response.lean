import RecordQuery.Page
import RecordQuery.Response

/-!
# Reading the body of a page

The count, the records and the links that the body of an answer holds, and what they are for a
page.
-/

namespace RecordQuery

theorem JsonNumber.ofInt?_of_range {n : Int}
    (h : -0x8000000000000000 ≤ n ∧ n < 0x10000000000000000) :
    ofInt? n = some (.integer n h.1 h.2) := dif_pos h

theorem Json.ofInt_of_range {n : Int}
    (h : -0x8000000000000000 ≤ n ∧ n < 0x10000000000000000) :
    ofInt n = number (.integer n h.1 h.2) := by
  rw [ofInt, JsonNumber.ofInt?_of_range h]

namespace Response

def field? (response : Response) (name : String) : Option Json :=
  response.body.bind fun body => body.get? name

def count? (response : Response) : Option Int :=
  match response.field? "count" with
  | some (.number (.integer n _ _)) => some n
  | _ => none

def results (response : Response) : List Json :=
  match response.field? "results" with
  | some (.array values) => values
  | _ => []

def link? (response : Response) (name : String) : Option String :=
  match response.field? name with
  | some (.string link) => some link
  | _ => none

def ofLinks (links : PageLinks) (values : List Json) : Response :=
  .page links.count links.next links.previous values

variable (count : Nat) (next previous : Option String) (values : List Json)

theorem count?_page (h : count ≤ Page.maxIndex) :
    (page count next previous values).count? = some (count : Int) := by
  have hrange : -0x8000000000000000 ≤ (count : Int) ∧ (count : Int) < 0x10000000000000000 := by
    simp only [Page.maxIndex, UInt64.size] at h
    omega
  have hcount : (page count next previous values).field? "count" = some (.ofNat count) := rfl
  rw [count?, hcount, Json.ofNat, Json.ofInt_of_range hrange]

@[simp] theorem results_page : (page count next previous values).results = values := rfl

@[simp] theorem link?_page : (page count next previous values).link? "next" = next := by
  cases next <;> rfl

end Response

end RecordQuery
