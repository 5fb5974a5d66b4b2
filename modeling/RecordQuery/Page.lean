import RecordQuery.Json.Basic
import RecordQuery.Numeric.Digits
import RecordQuery.QueryString
import RecordQuery.Text.Blank

/-!
# Pages

A long list is answered a page at a time. A page is a number from one on and a size; its place in
the list is worked out without passing the largest index of 64 bits.
-/

namespace RecordQuery

structure PageSettings where
  pageParam : String
  pageSizeParam : String
  defaultSize : Nat
  maxSize : Nat
deriving DecidableEq, Repr

def PageSettings.standard : PageSettings := ⟨"page", "page_size", 20, 100⟩

structure Page where
  number : Nat
  size : Nat
deriving DecidableEq, Repr

structure PageLinks where
  count : Nat
  next : Option String
  previous : Option String
  offset : Nat
  limit : Nat
deriving DecidableEq, Repr

namespace Page

def maxIndex : Nat := UInt64.size - 1

/-- The number, or the largest index if it is larger. -/
def saturate (n : Nat) : Nat := min n maxIndex

def standard : Page := ⟨1, PageSettings.standard.defaultSize⟩

/-- The page with this number and size; a number below one is one, and a size that is not allowed
is the default. -/
def withLimits (number size : Int) (defaultSize maxSize : Nat) : Page :=
  ⟨max number.toNat 1, if 1 ≤ size ∧ size ≤ maxSize then size.toNat else defaultSize⟩

def ofNumbers (number size : Int) : Page :=
  withLimits number size PageSettings.standard.defaultSize PageSettings.standard.maxSize

def readParam (query : QueryString) (key : String) (absent : Int) : Int :=
  ((query.get? key).bind fun text =>
    (Digits.readInt64? (Text.trimChars text.toList)).map Int64.toInt).getD absent

def ofQuery (query : QueryString) (settings : PageSettings) : Page :=
  withLimits (readParam query settings.pageParam 1) (readParam query settings.pageSizeParam 0)
    settings.defaultSize settings.maxSize

/-- The number of elements before the page. -/
def offset (page : Page) : Nat := saturate ((page.number - 1) * page.size)

def limit (page : Page) : Nat := page.size

/-- The links of a page in a list of `total` elements. The first page is asked for by leaving
the parameter out. -/
def paginate (page : Page) (total : Nat) (base : String) (query : QueryString)
    (pageParam : String) : PageLinks :=
  let next :=
    if saturate (page.offset + page.limit) < total then
      some ((query.replace pageParam (Digits.natText (page.number + 1))).url base)
    else none
  let previous :=
    if page.number = 1 then none
    else if page.number = 2 then some ((query.erase pageParam).url base)
    else some ((query.replace pageParam (Digits.natText (page.number - 1))).url base)
  ⟨total, next, previous, page.offset, page.limit⟩

def toJson (page : Page) : Json :=
  .object [("page_number", .ofNat page.number), ("page_size", .ofNat page.size)]

end Page

namespace PageLinks

/-- The part of a list of this length that the page shows: its start and its end. -/
def window (links : PageLinks) (length : Nat) : Nat × Nat :=
  (min links.offset length, min (Page.saturate (links.offset + links.limit)) length)

def toJson (links : PageLinks) : Json :=
  .object [
    ("count", .ofNat links.count),
    ("next", .ofOption (links.next.map .string)),
    ("previous", .ofOption (links.previous.map .string)),
    ("offset", .ofNat links.offset),
    ("limit", .ofNat links.limit)]

end PageLinks

end RecordQuery
