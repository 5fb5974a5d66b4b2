import RecordQuery.Json.Basic
import RecordQuery.Page
import RecordQuery.Selection

/-!
# Settings

What an endpoint can be told: the names of the parameters that are not filters, the sizes of
pages, and what to do when a request says nothing about ordering.
-/

namespace RecordQuery

structure Settings where
  reservedParams : List String
  pageParam : String
  pageSizeParam : String
  orderingParam : String
  defaultPageSize : Nat
  maxPageSize : Nat
  defaultOrdering : Option String
  paginate : Bool
deriving DecidableEq, Repr

namespace Settings

def standard : Settings where
  reservedParams := Selection.defaultReserved
  pageParam := "page"
  pageSizeParam := "page_size"
  orderingParam := "ordering"
  defaultPageSize := 20
  maxPageSize := 100
  defaultOrdering := none
  paginate := true

inductive Problem where
  /-- No page may have any element. -/
  | maxPageSizeZero
  /-- The default size is not a size that a page may have. -/
  | defaultPageSizeOutOfRange (maxSize size : Nat)
deriving DecidableEq, Repr

def Problem.message : Problem → String
  | maxPageSizeZero => "invalid configuration: max_page_size must be at least 1"
  | defaultPageSizeOutOfRange maxSize size =>
    "invalid configuration: default_page_size must be between 1 and max_page_size (" ++
      Digits.natText maxSize ++ "), got " ++ Digits.natText size

def problem? (settings : Settings) : Option Problem :=
  if settings.maxPageSize = 0 then some .maxPageSizeZero
  else if settings.defaultPageSize = 0 ∨ settings.maxPageSize < settings.defaultPageSize then
    some (.defaultPageSizeOutOfRange settings.maxPageSize settings.defaultPageSize)
  else none

/-- Reserves a parameter, once. -/
def reserve (settings : Settings) (param : String) : Settings :=
  if settings.reservedParams.contains param then settings
  else { settings with reservedParams := settings.reservedParams ++ [param] }

/-- The parameters that are not filters: the reserved ones, and those that choose the page and
the ordering. -/
def reservedKeys (settings : Settings) : List String :=
  [settings.pageParam, settings.pageSizeParam, settings.orderingParam].foldl
    (fun keys name => if keys.contains name then keys else keys ++ [name])
    settings.reservedParams

def page (settings : Settings) : PageSettings :=
  ⟨settings.pageParam, settings.pageSizeParam, settings.defaultPageSize, settings.maxPageSize⟩

def toJson (settings : Settings) : Json :=
  .object [
    ("reserved_params", .strings settings.reservedParams),
    ("page_param", .string settings.pageParam),
    ("page_size_param", .string settings.pageSizeParam),
    ("ordering_param", .string settings.orderingParam),
    ("default_page_size", .ofNat settings.defaultPageSize),
    ("max_page_size", .ofNat settings.maxPageSize),
    ("default_ordering", .ofOption (settings.defaultOrdering.map .string)),
    ("paginate", .bool settings.paginate)]

end Settings

end RecordQuery
