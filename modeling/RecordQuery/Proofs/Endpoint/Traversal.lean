import RecordQuery.Proofs.Endpoint.Listing
import RecordQuery.Proofs.Settings

/-!
# Following the links to the next page

A client that lists, reads the parameters of the link to the next page, and lists again until
there is no such link sees every record of the list once and in order.
-/

namespace RecordQuery.Endpoint

/-! ## Requests for the pages of one list -/

/-- The number of pages that show the rest of a list; an empty rest takes one. -/
def pagesFor (rest size : Nat) : Nat := max 1 ((rest + size - 1) / size)

theorem pagesFor_of_le {rest size : Nat} (hsize : 1 ≤ size) (h : rest ≤ size) :
    pagesFor rest size = 1 := by
  unfold pagesFor
  have hdiv : (rest + size - 1) / size < 2 := Nat.div_lt_of_lt_mul (by omega)
  omega

theorem pagesFor_add {rest size : Nat} (hrest : 1 ≤ rest) (hsize : 1 ≤ size) :
    pagesFor (rest + size) size = pagesFor rest size + 1 := by
  unfold pagesFor
  have hdiv : (rest + size + size - 1) / size = (rest + size - 1) / size + 1 := by
    have hpos : 0 < size := hsize
    have hnumerator : rest + size + size - 1 = rest + size - 1 + size := by omega
    rw [hnumerator, Nat.add_div_right _ hpos]
  have hpos : 1 ≤ (rest + size - 1) / size := (Nat.one_le_div_iff (by omega)).mpr (by omega)
  omega

/-- Answers that are pages of one list: each reports its length, and together they show it. -/
structure Tiles (values : List Json) (count : Nat) (answers : List Response) : Prop where
  status : ∀ answer ∈ answers, answer.status = .ok
  count : ∀ answer ∈ answers, answer.count? = some (count : Int)
  results : answers.flatMap Response.results = values

theorem Tiles.cons {values rest shown : List Json} {count : Nat} {answers : List Response}
    (links : PageLinks) (hcount : links.count = count) (hle : count ≤ Page.maxIndex)
    (h : Tiles rest count answers) (hvalues : shown ++ rest = values) :
    Tiles values count (.ofLinks links shown :: answers) := by
  refine ⟨?_, ?_, ?_⟩
  · intro answer hmem
    rcases List.mem_cons.mp hmem with rfl | hmem
    · rfl
    · exact h.status answer hmem
  · intro answer hmem
    rcases List.mem_cons.mp hmem with rfl | hmem
    · rw [← hcount] at hle ⊢
      exact Response.count?_page _ _ _ _ hle
    · exact h.count answer hmem
  · rw [List.flatMap_cons, h.results, Response.ofLinks, Response.results_page]
    exact hvalues

theorem Tiles.nil (count : Nat) : Tiles [] count [] :=
  ⟨fun _ h => absurd h List.not_mem_nil, fun _ h => absurd h List.not_mem_nil, rfl⟩

/-- A page in front of answers that show what is behind it. -/
theorem Tiles.page {R : Type} [Storable R] {all : List R} {front size : Nat}
    {answers : List Response} (links : PageLinks) (hcount : links.count = all.length)
    (hle : all.length ≤ Page.maxIndex)
    (h : Tiles ((all.drop (front + size)).map Storable.encode) all.length answers) :
    Tiles ((all.drop front).map Storable.encode) all.length
      (.ofLinks links (((all.drop front).take size).map Storable.encode) :: answers) := by
  apply h.cons links hcount hle
  rw [← List.map_append, ← List.drop_drop, List.take_append_drop]

/-- A request for one page of the list of `query`. -/
structure Asks (settings : Settings) (query : QueryString) (number size : Nat)
    (request : QueryString) : Prop where
  page : Page.ofQuery request settings.page = ⟨number, size⟩
  rest : request.erase settings.pageParam = query.erase settings.pageParam

/-- The link to the next page asks for it. Its number is read back, since there are more records
than pages before it. -/
theorem Asks.next {settings : Settings} {query request : QueryString} {number size : Nat}
    (h : Asks settings query number size request)
    (hparams : settings.pageParam ≠ settings.pageSizeParam) (hpos : 1 ≤ size)
    (hnumber : 1 ≤ number) {base link : String} {total : Nat} (htotal : total < 2 ^ 63)
    (hmore : number * size < total)
    (hlink : (Page.paginate ⟨number, size⟩ total base request settings.pageParam).next =
      some link) :
    Asks settings query (number + 1) size (QueryString.ofLink link) := by
  have hpage : 1 ≤ Page.number ⟨number, size⟩ := hnumber
  obtain ⟨hquery, _⟩ := Page.ofLink_next hpage hlink
  refine ⟨?_, ?_⟩
  · have hmul : number ≤ number * size := Nat.le_mul_of_pos_right number hpos
    have hparams' : settings.page.pageParam ≠ settings.page.pageSizeParam := hparams
    have hread := Page.ofQuery_linkQuery hparams' request (Nat.le_add_left 1 number)
    rw [if_pos (by omega), h.page] at hread
    rw [hquery]
    exact hread
  · rw [hquery, Page.erase_linkQuery, h.rest]

/-! ## Following the links -/

section Crawl

variable [RegexLibrary]

/-- The answers that a client gets who lists and follows the links to the next page until there is
none. Each request meets the state that the one before it left. -/
inductive Crawl {σ ι : Type} (endpoint : Endpoint σ ι) (base : String) :
    QueryString → σ → List Response → Prop where
  | last {query : QueryString} {state : σ}
      (hlink : (endpoint.list base query state).response.link? "next" = none) :
      Crawl endpoint base query state [(endpoint.list base query state).response]
  | more {query : QueryString} {state : σ} {link : String} {answers : List Response}
      (hlink : (endpoint.list base query state).response.link? "next" = some link)
      (hrest : Crawl endpoint base (QueryString.ofLink link)
        (endpoint.list base query state).state answers) :
      Crawl endpoint base query state ((endpoint.list base query state).response :: answers)

theorem Crawl.unique {σ ι : Type} {endpoint : Endpoint σ ι} {base : String} {query : QueryString}
    {state : σ} {answers others : List Response} (h : Crawl endpoint base query state answers)
    (h' : Crawl endpoint base query state others) : others = answers := by
  induction h generalizing others with
  | last hlink =>
    cases h' with
    | last _ => rfl
    | more hlink' _ => exact absurd (hlink'.symm.trans hlink) (by simp)
  | more hlink _ ih =>
    cases h' with
    | last hlink' => exact absurd (hlink.symm.trans hlink') (by simp)
    | more hlink' hrest' =>
      obtain rfl := Option.some.inj (hlink.symm.trans hlink')
      rw [ih hrest']

theorem plainList_of_erase_eq {σ ι R : Type} [Storable R] (endpoint : Endpoint σ ι)
    {q r : QueryString} (hordering : endpoint.settings.pageParam ≠ endpoint.settings.orderingParam)
    (h : q.erase endpoint.settings.pageParam = r.erase endpoint.settings.pageParam)
    (records : List R) : endpoint.plainList q records = endpoint.plainList r records := by
  have hfilters := Selection.build_of_erase_eq endpoint.store.schemas endpoint.store.schema
    endpoint.settings.pageParam_mem_reservedKeys h
  have hdirective := QueryString.get?_eq_of_erase_eq h hordering.symm
  unfold plainList heldFilters requestedSelection plainKeys
  rw [hfilters, hdirective]

section Table

variable {R : Type} [Storable R]
variable (validate : Validator) {settings : Settings} (preFilter : Option Selection)
variable (base : String) (query : QueryString) {table : Table R}
variable (hsize : table.size < 2 ^ 63) (hpaginate : settings.paginate = true)
variable (hordering : settings.pageParam ≠ settings.orderingParam)
include hsize hpaginate hordering

theorem list_page {request : QueryString} {number size : Nat}
    (hasks : Asks settings query number size request) :
    let endpoint := ofTable R validate settings preFilter
    let all := endpoint.plainList query table.records
    (endpoint.list base request table).response =
      .ofLinks (Page.paginate ⟨number, size⟩ all.length base request settings.pageParam)
        (((all.drop ((number - 1) * size)).take size).map Storable.encode) ∧
    (endpoint.list base request table).state = table := by
  intro endpoint all
  have hle : table.size ≤ Page.maxIndex := Page.le_maxIndex_of_lt hsize
  obtain ⟨hresponse, hstate⟩ :=
    list_eq_plainAnswer validate settings preFilter base request table hle
  have hall : endpoint.plainList request table.records = all :=
    plainList_of_erase_eq endpoint hordering hasks.rest table.records
  exact ⟨hresponse.trans (plainAnswer_of_pages endpoint request hpaginate hasks.page hall), hstate⟩

/-- From the page of a number on, following the links shows the rest of the list. The induction is
on what lies behind the page. -/
theorem exists_crawl (hparams : settings.pageParam ≠ settings.pageSizeParam) {size : Nat}
    (hpos : 1 ≤ size) {request : QueryString} {number : Nat} (hnumber : 1 ≤ number)
    (hasks : Asks settings query number size request) :
    let endpoint := ofTable R validate settings preFilter
    let all := endpoint.plainList query table.records
    ∃ answers, Crawl endpoint base request table answers ∧
      answers.length = pagesFor (all.length - (number - 1) * size) size ∧
      Tiles ((all.drop ((number - 1) * size)).map Storable.encode) all.length answers := by
  intro endpoint all
  have hlength : all.length < 2 ^ 63 :=
    Nat.lt_of_le_of_lt (length_plainList_le query table endpoint) hsize
  have hle : all.length ≤ Page.maxIndex := Page.le_maxIndex_of_lt hlength
  induction hrest : all.length - number * size using Nat.strongRecOn
    generalizing number request with
  | ind rest ih =>
    let links := Page.paginate ⟨number, size⟩ all.length base request settings.pageParam
    obtain ⟨hresponse, hstate⟩ := list_page validate preFilter base query hsize hpaginate
      hordering hasks
    have hlink : (endpoint.list base request table).response.link? "next" = links.next := by
      rw [hresponse]
      exact Response.link?_page _ _ _ _
    have hpage : 1 ≤ Page.number ⟨number, size⟩ := hnumber
    have hnext : links.next.isSome ↔ number * size < all.length :=
      Page.next_isSome_iff hpage hle base request settings.pageParam
    have hsucc : number * size = (number - 1) * size + size := by
      rw [← Nat.succ_mul, Nat.succ_eq_add_one, Nat.sub_add_cancel hnumber]
    by_cases hmore : number * size < all.length
    · obtain ⟨link, hsome⟩ := Option.isSome_iff_exists.mp (hnext.mpr hmore)
      have hbehind : (number + 1) * size = number * size + size := Nat.succ_mul number size
      obtain ⟨answers, hcrawl, hcount, htiles⟩ := ih (all.length - (number + 1) * size)
        (by omega) (Nat.le_add_left 1 number)
        (hasks.next hparams hpos hnumber hlength hmore hsome) rfl
      rw [Nat.add_sub_cancel] at hcount htiles
      refine ⟨_, .more (hlink.trans hsome) (hstate.symm ▸ hcrawl), ?_, ?_⟩
      · have hshown : all.length - (number - 1) * size = all.length - number * size + size := by
          omega
        rw [List.length_cons, hcount, hshown, pagesFor_add (by omega) hpos]
      · rw [hsucc] at htiles
        rw [hresponse]
        exact htiles.page links rfl hle
    · have hnone : links.next = none := Option.not_isSome_iff_eq_none.mp (mt hnext.mp hmore)
      refine ⟨_, .last (hlink.trans hnone), ?_, ?_⟩
      · rw [List.length_singleton, pagesFor_of_le hpos (by omega)]
      · have hbehind : all.drop ((number - 1) * size + size) = [] :=
          List.drop_eq_nil_of_le (by omega)
        rw [hresponse]
        apply Tiles.page links rfl hle
        rw [hbehind]
        exact Tiles.nil all.length

end Table

/-- Following the links from the first page enumerates the list. There is one run of requests; it
ends after as many of them as the list fills pages, every answer reports the length of the list,
and the records shown are, one after the other, the answer that the same request gets where lists
have no pages. Every request sorts anew by `stableSort`; where the records are not totally
preordered by the ordering, nothing is said of other sorts. -/
theorem following_links_enumerates {R : Type} [Storable R] (validate : Validator)
    {settings : Settings} (preFilter : Option Selection) (base : String) {query : QueryString}
    {table : Table R} (hsize : table.size < 2 ^ 63) (hsettings : settings.problem? = none)
    (hpaginate : settings.paginate = true) (hparams : settings.pageParam ≠ settings.pageSizeParam)
    (hordering : settings.pageParam ≠ settings.orderingParam)
    (hfirst : (Page.ofQuery query settings.page).number = 1) :
    let endpoint := ofTable R validate settings preFilter
    let whole := ofTable R validate { settings with paginate := false } preFilter
    let size := (Page.ofQuery query settings.page).size
    ∃ values answers,
      (whole.list base query table).response = .ok (.array values) ∧
      Crawl endpoint base query table answers ∧
      (∀ others, Crawl endpoint base query table others → others = answers) ∧
      answers.length = max 1 ((values.length + size - 1) / size) ∧
      (∀ answer ∈ answers, answer.status = .ok ∧ answer.count? = some (values.length : Int)) ∧
      answers.flatMap Response.results = values := by
  intro endpoint whole size
  have hpos : 1 ≤ size := settings.size_pos hsettings query
  have hpage : Page.ofQuery query settings.page = ⟨1, size⟩ := by
    rw [← hfirst]
  have hle : table.size ≤ Page.maxIndex := Page.le_maxIndex_of_lt hsize
  have hall : whole.plainList query table.records = endpoint.plainList query table.records := rfl
  obtain ⟨hwhole, _⟩ := list_eq_plainAnswer validate { settings with paginate := false } preFilter
    base query table hle
  obtain ⟨answers, hcrawl, hcount, htiles⟩ := exists_crawl validate preFilter base query hsize
    hpaginate hordering hparams hpos (Nat.le_refl 1) ⟨hpage, rfl⟩
  rw [Nat.sub_self, Nat.zero_mul, Nat.sub_zero] at hcount
  rw [Nat.sub_self, Nat.zero_mul, List.drop_zero] at htiles
  refine ⟨(endpoint.plainList query table.records).map Storable.encode, answers, ?_, hcrawl,
    fun others h => hcrawl.unique h, ?_, ?_, htiles.results⟩
  · exact hwhole.trans (plainAnswer_of_whole whole query rfl hall)
  · rw [List.length_map]
    exact hcount
  · intro answer hmem
    rw [List.length_map]
    exact ⟨htiles.status answer hmem, htiles.count answer hmem⟩

end Crawl

/-- Two pages show the three labels that start with a letter, from the last to the first. The
request names the page twice, and the last one counts. -/
theorem following_links_of_someLabels :
    letI : RegexLibrary := .permissive
    let settings := Settings.standard
    let query : QueryString :=
      ⟨[("page", "3"), ("label", "p*"), ("ordering", "-pk"), ("page", "1"), ("page_size", "2")]⟩
    let labels : List Sample.Label := [⟨6, "peach"⟩, ⟨3, "plum"⟩, ⟨1, "pear"⟩]
    someLabels.size < 2 ^ 63 ∧ settings.problem? = none ∧ settings.paginate = true ∧
      settings.pageParam ≠ settings.pageSizeParam ∧ settings.pageParam ≠ settings.orderingParam ∧
      (Page.ofQuery query settings.page).number = 1 ∧
      ∃ answers,
        Crawl (ofTable Sample.Label .acceptAll settings none) "/labels" query someLabels answers ∧
        answers.length = 2 ∧
        answers.flatMap Response.results = labels.map Storable.encode := by
  let : RegexLibrary := .permissive
  intro settings query labels
  have hsize : someLabels.size < 2 ^ 63 := by decide
  have hsettings : settings.problem? = none := by decide
  have hparams : settings.pageParam ≠ settings.pageSizeParam := by decide
  have hordering : settings.pageParam ≠ settings.orderingParam := by decide
  have hpage : Page.ofQuery query settings.page = ⟨1, 2⟩ := by decide
  have hfirst : (Page.ofQuery query settings.page).number = 1 := by rw [hpage]
  obtain ⟨values, answers, hwhole, hcrawl, _, hlength, _, hresults⟩ :=
    following_links_enumerates .acceptAll none "/labels" hsize hsettings rfl hparams hordering
      hfirst
  have hall : (ofTable Sample.Label .acceptAll settings none).plainList query someLabels.records =
      labels := by decide
  have hvalues : values = labels.map Storable.encode := by
    obtain ⟨hresponse, _⟩ := list_eq_plainAnswer .acceptAll { settings with paginate := false }
      none "/labels" query someLabels (by decide)
    have h := hresponse.trans (plainAnswer_of_whole _ query rfl hall)
    rw [hwhole] at h
    exact Json.array.inj (Option.some.inj (congrArg Response.body h))
  rw [hvalues, List.length_map, hpage] at hlength
  exact ⟨hsize, hsettings, rfl, hparams, hordering, hfirst, answers, hcrawl,
    hlength.trans (by decide), hresults.trans hvalues⟩

end RecordQuery.Endpoint
