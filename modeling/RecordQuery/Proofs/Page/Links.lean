import RecordQuery.Page
import RecordQuery.Proofs.Numeric.Digits
import RecordQuery.Proofs.QueryString.Lookup
import RecordQuery.Proofs.QueryString.Written
import RecordQuery.Selection

/-!
# Links between pages

A link to a neighbouring page carries the request that it was made from with another page number:
the same filters, the same page size, and the same values under every other key. The number of the
next page is read back unless it passes the largest integer of 64 bits, which it can do only where
pages have size zero.
-/

namespace RecordQuery

/-! ## Filters -/

/-- Parameters that differ under a reserved key alone ask for the same filters. -/
theorem Selection.build_of_erase_eq [RegexLibrary] (schemas : Schemas) (schema : Schema)
    {q r : QueryString} {key : String} {reserved : List String} (hkey : key ∈ reserved)
    (h : q.erase key = r.erase key) :
    build schemas schema q reserved = build schemas schema r reserved := by
  have drop (p : QueryString) : requested p reserved = requested (p.erase key) reserved := by
    unfold requested
    rw [QueryString.lastValues_erase, List.filter_filter]
    apply List.filter_congr
    intro pair _
    by_cases hp : pair.1 = key
    · simp [hp, hkey]
    · simp [hp]
  unfold build
  rw [drop q, drop r, h]

namespace Page

theorem le_maxIndex_of_lt {n : Nat} (h : n < 2 ^ 63) : n ≤ maxIndex := by
  simp only [maxIndex, UInt64.size]
  omega

/-! ## Reading a page from parameters -/

theorem readParam_replace_self (query : QueryString) (key : String) (n : Nat) (absent : Int) :
    readParam (query.replace key (Digits.natText n)) key absent =
      if n < 2 ^ 63 then (n : Int) else absent := by
  rw [readParam, QueryString.get?_replace_self, Option.bind_some, Digits.readInt64?_natText]
  split <;> rfl

theorem readParam_erase_self (query : QueryString) (key : String) (absent : Int) :
    readParam (query.erase key) key absent = absent := by
  rw [readParam, QueryString.get?_erase_self]
  rfl

theorem readParam_of_erase_eq {q r : QueryString} {key other : String}
    (h : q.erase key = r.erase key) (hother : other ≠ key) (absent : Int) :
    readParam q other absent = readParam r other absent := by
  unfold readParam
  rw [QueryString.get?_eq_of_erase_eq h hother]

theorem readParam_lt (query : QueryString) (key : String) {absent : Int}
    (h : absent < 2 ^ 63) : readParam query key absent < 2 ^ 63 := by
  unfold readParam
  cases hread : (query.get? key).bind fun text =>
      (Digits.readInt64? (Text.trimChars text.toList)).map Int64.toInt with
  | none => exact h
  | some n =>
    obtain ⟨text, _, hn⟩ := Option.bind_eq_some_iff.mp hread
    obtain ⟨m, _, rfl⟩ := Option.map_eq_some_iff.mp hn
    exact m.toInt_lt

theorem number_pos (query : QueryString) (settings : PageSettings) :
    1 ≤ (ofQuery query settings).number := by
  simp only [ofQuery, withLimits]
  omega

theorem number_lt (query : QueryString) (settings : PageSettings) :
    (ofQuery query settings).number < 2 ^ 63 := by
  have hone : (1 : Int) < 2 ^ 63 := by decide
  have h := readParam_lt query settings.pageParam hone
  simp only [ofQuery, withLimits]
  omega

theorem ofQuery_of_erase_eq {q r : QueryString} {settings : PageSettings}
    (hparams : settings.pageParam ≠ settings.pageSizeParam)
    (h : q.erase settings.pageParam = r.erase settings.pageParam) :
    ofQuery q settings =
      ⟨max (readParam q settings.pageParam 1).toNat 1, (ofQuery r settings).size⟩ := by
  unfold ofQuery
  rw [readParam_of_erase_eq h hparams.symm]
  rfl

/-! ## Links -/

/-- The parameters of the link to the page of a number: the first page needs none. -/
def linkQuery (query : QueryString) (pageParam : String) (number : Nat) : QueryString :=
  if number = 1 then query.erase pageParam
  else query.replace pageParam (Digits.natText number)

theorem erase_linkQuery (query : QueryString) (pageParam : String) (number : Nat) :
    (linkQuery query pageParam number).erase pageParam = query.erase pageParam := by
  unfold linkQuery
  split
  · simp [QueryString.erase, List.filter_filter]
  · exact QueryString.erase_replace query pageParam _

theorem readParam_linkQuery (query : QueryString) (pageParam : String) (number : Nat) :
    readParam (linkQuery query pageParam number) pageParam 1 =
      if number < 2 ^ 63 then (number : Int) else 1 := by
  unfold linkQuery
  split
  · rename_i h
    rw [readParam_erase_self, h]
    rfl
  · exact readParam_replace_self query pageParam number 1

theorem ofQuery_linkQuery {settings : PageSettings}
    (hparams : settings.pageParam ≠ settings.pageSizeParam) (query : QueryString) {number : Nat}
    (hnumber : 1 ≤ number) :
    ofQuery (linkQuery query settings.pageParam number) settings =
      ⟨if number < 2 ^ 63 then number else 1, (ofQuery query settings).size⟩ := by
  rw [ofQuery_of_erase_eq hparams (erase_linkQuery query settings.pageParam number),
    readParam_linkQuery]
  split
  · rw [Int.toNat_natCast, Nat.max_eq_left hnumber]
  · rfl

section Next

variable {page : Page} {total : Nat} {base link pageParam : String} {query : QueryString}

theorem saturate_lt {n : Nat} (h : total ≤ maxIndex) : saturate n < total ↔ n < total := by
  rw [saturate]
  omega

/-- The end of a page is worked out in two steps, and 64 bits cut it off only where they would cut
off the exact end. -/
theorem saturate_end (hpage : 1 ≤ page.number) :
    saturate (page.offset + page.limit) = saturate (page.number * page.size) := by
  obtain ⟨n, hn⟩ := Nat.exists_eq_add_of_le' hpage
  have hmul : page.number * page.size = n * page.size + page.size := by rw [hn, Nat.succ_mul]
  have hoffset : page.offset = min (n * page.size) maxIndex := by
    rw [offset, saturate, hn, Nat.add_sub_cancel]
  rw [hmul, hoffset, limit, saturate, saturate]
  omega

/-- Working out the end of a page within 64 bits decides as exact arithmetic does whether elements
follow the page. -/
theorem saturate_lt_iff (hpage : 1 ≤ page.number) (htotal : total ≤ maxIndex) :
    saturate (page.offset + page.limit) < total ↔ page.number * page.size < total := by
  rw [saturate_end hpage, saturate_lt htotal]

theorem ofLink_next (hpage : 1 ≤ page.number)
    (h : (page.paginate total base query pageParam).next = some link) :
    QueryString.ofLink link = linkQuery query pageParam (page.number + 1) ∧
      saturate (page.offset + page.limit) < total := by
  simp only [paginate, Option.ite_none_right_eq_some, Option.some.injEq] at h
  obtain ⟨hlt, rfl⟩ := h
  have hne : page.number + 1 ≠ 1 := by omega
  exact ⟨by rw [QueryString.ofLink_url, linkQuery, if_neg hne], hlt⟩

theorem ofLink_previous (h : (page.paginate total base query pageParam).previous = some link) :
    QueryString.ofLink link = linkQuery query pageParam (page.number - 1) ∧ page.number ≠ 1 := by
  simp only [paginate] at h
  split at h
  · exact absurd h (by simp)
  · rename_i hone
    split at h
    · rename_i htwo
      rw [Option.some.injEq] at h
      subst h
      exact ⟨by rw [QueryString.ofLink_url, linkQuery, htwo, if_pos rfl], hone⟩
    · rename_i htwo
      have hne : page.number - 1 ≠ 1 := by omega
      rw [Option.some.injEq] at h
      subst h
      exact ⟨by rw [QueryString.ofLink_url, linkQuery, if_neg hne], hone⟩

end Next

/-! ## What a link asks for -/

/-- Parameters that ask for what `query` asks for, but for the page of the given number. -/
structure SameButPage [RegexLibrary] (schemas : Schemas) (schema : Schema) (reserved : List String)
    (settings : PageSettings) (query : QueryString) (number : Nat) (other : QueryString) :
    Prop where
  page : ofQuery other settings = ⟨number, (ofQuery query settings).size⟩
  filters : Selection.build schemas schema other reserved =
    Selection.build schemas schema query reserved
  values : ∀ key, key ≠ settings.pageParam → other.getAll key = query.getAll key

section Request

variable [RegexLibrary] (schemas : Schemas) (schema : Schema) {reserved : List String}
variable (query : QueryString) {settings : PageSettings}
variable (hparams : settings.pageParam ≠ settings.pageSizeParam)
variable (hreserved : settings.pageParam ∈ reserved)
include hparams hreserved

theorem sameButPage_linkQuery {number : Nat} (hnumber : 1 ≤ number) :
    SameButPage schemas schema reserved settings query (if number < 2 ^ 63 then number else 1)
      (linkQuery query settings.pageParam number) := by
  have herase := erase_linkQuery query settings.pageParam number
  exact ⟨ofQuery_linkQuery hparams query hnumber,
    Selection.build_of_erase_eq schemas schema hreserved herase,
    fun key hkey => QueryString.getAll_eq_of_erase_eq herase hkey⟩

/-- Both links of a page carry the request with the number of the page that they lead to. The one
exception is the largest page number where pages have size zero: the number behind it is not read,
and the link leads to the first page. -/
theorem links_sameButPage (base : String) {total : Nat} (htotal : total < 2 ^ 63) :
    let page := ofQuery query settings
    let links := page.paginate total base query settings.pageParam
    (∀ link, links.next = some link →
      SameButPage schemas schema reserved settings query
        (if page.size = 0 ∧ page.number = 2 ^ 63 - 1 then 1 else page.number + 1)
        (QueryString.ofLink link)) ∧
    (∀ link, links.previous = some link →
      SameButPage schemas schema reserved settings query (page.number - 1)
        (QueryString.ofLink link)) := by
  intro page links
  have hpos : 1 ≤ page.number := number_pos query settings
  have hlt : page.number < 2 ^ 63 := number_lt query settings
  constructor
  · intro link hlink
    obtain ⟨hquery, hmore⟩ := ofLink_next hpos hlink
    rw [saturate_lt_iff hpos (le_maxIndex_of_lt htotal)] at hmore
    have h := sameButPage_linkQuery schemas schema query hparams hreserved
      (Nat.le_add_left 1 page.number)
    rw [hquery]
    by_cases hsize : page.size = 0
    · by_cases hlast : page.number = 2 ^ 63 - 1
      · rw [if_pos ⟨hsize, hlast⟩]
        rwa [if_neg (by omega)] at h
      · rw [if_neg (fun hc => hlast hc.2)]
        rwa [if_pos (by omega)] at h
    · have hmul : page.number ≤ page.number * page.size :=
        Nat.le_mul_of_pos_right _ (Nat.pos_of_ne_zero hsize)
      rw [if_neg (fun hc => hsize hc.1)]
      rwa [if_pos (by omega)] at h
  · intro link hlink
    obtain ⟨hquery, hone⟩ := ofLink_previous hlink
    have hprevious : 1 ≤ page.number - 1 := by omega
    have h := sameButPage_linkQuery schemas schema query hparams hreserved hprevious
    rw [hquery]
    rwa [if_pos (by omega)] at h

end Request

/-- The links of the second page of a request that names the page twice, has an empty key, and
holds a separator in a value. -/
theorem links_sameButPage_of_repeated_page :
    letI : RegexLibrary := .permissive
    let settings := PageSettings.standard
    let query : QueryString :=
      ⟨[("page", "7"), ("tag", "a&b"), ("page", "2"), ("", "ü"), ("page_size", "5")]⟩
    let links := (ofQuery query settings).paginate 100 "/items?old=1" query settings.pageParam
    settings.pageParam ≠ settings.pageSizeParam ∧
      settings.pageParam ∈ Selection.defaultReserved ∧ 100 < 2 ^ 63 ∧
      links.next = some "/items?page=3&tag=a%26b&=%C3%BC&page_size=5" ∧
      links.previous = some "/items?tag=a%26b&=%C3%BC&page_size=5" ∧
      SameButPage (.ofList []) ⟨"Item", []⟩ Selection.defaultReserved settings query 3
        (QueryString.ofLink "/items?page=3&tag=a%26b&=%C3%BC&page_size=5") ∧
      SameButPage (.ofList []) ⟨"Item", []⟩ Selection.defaultReserved settings query 1
        (QueryString.ofLink "/items?tag=a%26b&=%C3%BC&page_size=5") := by
  let : RegexLibrary := .permissive
  intro settings query links
  have hparams : settings.pageParam ≠ settings.pageSizeParam := by decide
  have hreserved : settings.pageParam ∈ Selection.defaultReserved := by decide
  have htotal : 100 < 2 ^ 63 := by decide
  have hpage : ofQuery query settings = ⟨2, 5⟩ := by decide +kernel
  have hnext : links.next = some "/items?page=3&tag=a%26b&=%C3%BC&page_size=5" := by
    decide +kernel
  have hprevious : links.previous = some "/items?tag=a%26b&=%C3%BC&page_size=5" := by
    decide +kernel
  have h := links_sameButPage (.ofList []) ⟨"Item", []⟩ query hparams hreserved "/items?old=1"
    htotal
  refine ⟨hparams, hreserved, htotal, hnext, hprevious, ?_, ?_⟩
  · have hn := h.1 _ hnext
    rw [hpage] at hn
    exact hn
  · have hp := h.2 _ hprevious
    rw [hpage] at hp
    exact hp

/-- Where pages have size zero, the page with the largest number has a next page, and the link to
it leads to the first page. -/
theorem next_of_largest_number :
    let settings : PageSettings := ⟨"page", "page_size", 0, 100⟩
    let query : QueryString := ⟨[("page", "9223372036854775807")]⟩
    let page := ofQuery query settings
    let link := "/items?page=9223372036854775808"
    settings.pageParam ≠ settings.pageSizeParam ∧
      page = ⟨9223372036854775807, 0⟩ ∧
      (page.paginate 1 "/items" query settings.pageParam).next = some link ∧
      (ofQuery (QueryString.ofLink link) settings).number = 1 ∧
      (ofQuery (QueryString.ofLink link) settings).number ≠ page.number + 1 := by
  decide +kernel

end Page

end RecordQuery
