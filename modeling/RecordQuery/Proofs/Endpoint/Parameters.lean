import RecordQuery.Proofs.Endpoint.Listing
import RecordQuery.Proofs.Selection

/-!
# Parameters of a list

The answer to a list depends on the last value of each parameter alone. The order of the keys, the
values that later ones override and their repetitions show in nothing but the text of the links.
-/

namespace RecordQuery

namespace Table

variable {R : Type} [Storable R] (table : Table R) {a b : Selection}

theorem count_of_isMatch_eq (h : a.isMatch = b.isMatch) : table.count a = table.count b := by
  unfold count
  rw [h]

theorem fetch_of_isMatch_eq (h : a.isMatch = b.isMatch) (keys : List SortKey) (window : Window) :
    table.fetch a keys window = table.fetch b keys window := by
  unfold fetch matching
  rw [h]

end Table

namespace Page

variable (page : Page) (total : Nat) (base : String) (p q : QueryString) (pageParam : String)

theorem next_isSome_congr :
    (page.paginate total base p pageParam).next.isSome =
      (page.paginate total base q pageParam).next.isSome := by
  simp only [paginate]
  split <;> rfl

theorem previous_isSome_congr :
    (page.paginate total base p pageParam).previous.isSome =
      (page.paginate total base q pageParam).previous.isSome := by
  simp only [paginate]
  split
  · rfl
  · split <;> rfl

end Page

namespace Endpoint

variable {p q : QueryString} (h : ∀ key, p.get? key = q.get? key)
include h

theorem ofQuery_of_get?_eq (settings : PageSettings) :
    Page.ofQuery p settings = Page.ofQuery q settings := by
  unfold Page.ofQuery Page.readParam
  rw [h, h]

theorem sortKeys_of_get?_eq {σ ι : Type} (endpoint : Endpoint σ ι) :
    endpoint.sortKeys p = endpoint.sortKeys q := by
  unfold sortKeys
  rw [h]

theorem sameFilters_selection [RegexLibrary] {σ ι : Type} (endpoint : Endpoint σ ι) :
    Selection.SameFilters (endpoint.selection p) (endpoint.selection q) := by
  have hrequested :
      Selection.SameFilters (endpoint.requestedSelection p) (endpoint.requestedSelection q) :=
    Selection.sameFilters_build h
  unfold selection
  cases endpoint.preFilter with
  | none => exact hrequested
  | some fixed => exact hrequested.and_left fixed

omit h

section Table

variable [RegexLibrary] {R : Type} [Storable R]

/-- The number of records that a list over a table counts. -/
def counted (endpoint : Endpoint (Table R) UInt64) (query : QueryString) (table : Table R) : Nat :=
  if (endpoint.selection query).isSatisfiable then table.count (endpoint.selection query) else 0

/-- The records that a list over a table shows where it has pages. -/
def paged (endpoint : Endpoint (Table R) UInt64) (query : QueryString) (table : Table R) :
    List Json :=
  let page := Page.ofQuery query endpoint.settings.page
  if page.offset < endpoint.counted query table then
    (table.fetch (endpoint.selection query) (endpoint.sortKeys query)
      ⟨page.offset, some page.limit⟩).map Storable.encode
  else []

/-- The records that a list over a table shows where it has no pages. -/
def whole (endpoint : Endpoint (Table R) UInt64) (query : QueryString) (table : Table R) :
    List Json :=
  if (endpoint.selection query).isSatisfiable then
    (table.fetch (endpoint.selection query) (endpoint.sortKeys query) .all).map Storable.encode
  else []

section Answers

variable (validate : Validator) {settings : Settings} (preFilter : Option Selection)
variable (base : String) (query : QueryString) (table : Table R)

theorem list_of_pages (hpaginate : settings.paginate = true) :
    let endpoint := ofTable R validate settings preFilter
    let page := Page.ofQuery query settings.page
    (endpoint.list base query table).response =
        .ofLinks (page.paginate (endpoint.counted query table) base query settings.pageParam)
          (endpoint.paged query table) ∧
      (endpoint.list base query table).state = table := by
  intro endpoint page
  have hpages : endpoint.settings.paginate = true := hpaginate
  apply list_of_ok
  rw [if_pos hpages]
  apply listPage_of_ok
  · unfold counted
    split <;> rfl
  · simp only [paged]
    split <;> rfl

theorem list_of_whole (hpaginate : settings.paginate = false) :
    let endpoint := ofTable R validate settings preFilter
    (endpoint.list base query table).response = .ok (.array (endpoint.whole query table)) ∧
      (endpoint.list base query table).state = table := by
  intro endpoint
  have hpages : ¬ endpoint.settings.paginate = true := Bool.eq_false_iff.mp hpaginate
  apply list_of_ok
  rw [if_neg hpages]
  apply listAll_of_ok
  unfold whole
  split <;> rfl

end Answers

section SameValues

variable (h : ∀ key, p.get? key = q.get? key)
include h

theorem counted_of_get?_eq (endpoint : Endpoint (Table R) UInt64) (table : Table R) :
    endpoint.counted p table = endpoint.counted q table := by
  have hfilters := sameFilters_selection h endpoint
  unfold counted
  rw [hfilters.isSatisfiable_eq, table.count_of_isMatch_eq hfilters.isMatch_eq]

theorem paged_of_get?_eq (endpoint : Endpoint (Table R) UInt64) (table : Table R) :
    endpoint.paged p table = endpoint.paged q table := by
  have hmatch := (sameFilters_selection h endpoint).isMatch_eq
  simp only [paged, counted_of_get?_eq h, ofQuery_of_get?_eq h, sortKeys_of_get?_eq h,
    table.fetch_of_isMatch_eq hmatch]

theorem whole_of_get?_eq (endpoint : Endpoint (Table R) UInt64) (table : Table R) :
    endpoint.whole p table = endpoint.whole q table := by
  have hfilters := sameFilters_selection h endpoint
  unfold whole
  rw [hfilters.isSatisfiable_eq, sortKeys_of_get?_eq h,
    table.fetch_of_isMatch_eq hfilters.isMatch_eq]

end SameValues

/-- Two requests that say the same under every key are answered alike over every table. Where lists
have pages, both report the same count, show the same records and link to the same neighbours;
where they have none, the answers are equal. -/
theorem list_of_get?_eq (validate : Validator) (settings : Settings)
    (preFilter : Option Selection) (base : String) (table : Table R)
    (h : ∀ key, p.get? key = q.get? key) :
    let endpoint := ofTable R validate settings preFilter
    let first := endpoint.list base p table
    let second := endpoint.list base q table
    first.response.status = second.response.status ∧
      first.state = table ∧ second.state = table ∧
      (settings.paginate = true → ∃ count values next next' previous previous',
        first.response = .page count next previous values ∧
        second.response = .page count next' previous' values ∧
        next.isSome = next'.isSome ∧ previous.isSome = previous'.isSome) ∧
      (settings.paginate = false → first.response = second.response) := by
  intro endpoint first second
  cases hpaginate : settings.paginate with
  | true =>
    obtain ⟨hfirst, hfirstState⟩ := list_of_pages validate preFilter base p table hpaginate
    obtain ⟨hsecond, hsecondState⟩ := list_of_pages validate preFilter base q table hpaginate
    rw [ofQuery_of_get?_eq h, counted_of_get?_eq h, paged_of_get?_eq h] at hfirst
    refine ⟨?_, hfirstState, hsecondState, fun _ => ?_, fun hnot => absurd hnot (by simp)⟩
    · exact (congrArg Response.status hfirst).trans (congrArg Response.status hsecond).symm
    · exact ⟨_, _, _, _, _, _, hfirst, hsecond, Page.next_isSome_congr _ _ base p q _,
        Page.previous_isSome_congr _ _ base p q _⟩
  | false =>
    obtain ⟨hfirst, hfirstState⟩ := list_of_whole validate preFilter base p table hpaginate
    obtain ⟨hsecond, hsecondState⟩ := list_of_whole validate preFilter base q table hpaginate
    rw [whole_of_get?_eq h] at hfirst
    have hsame : first.response = second.response := hfirst.trans hsecond.symm
    exact ⟨congrArg Response.status hsame, hfirstState, hsecondState,
      fun hnot => absurd hnot (by simp), fun _ => hsame⟩

end Table

/-- The first page of the labels that start with a letter, from the last to the first. The request
has its keys in another order than a plainer one, repeats them with values that do not count, and
takes a filter back with an empty value. -/
theorem list_of_repeated_keys :
    letI : RegexLibrary := .permissive
    let p : QueryString :=
      ⟨[("memo", "x"), ("page", "9"), ("ordering", "-pk"), ("label", "f*"), ("page_size", "2"),
        ("page", "1"), ("label", "p*"), ("memo", "")]⟩
    let q : QueryString :=
      ⟨[("page_size", "2"), ("label", "p*"), ("page", "1"), ("memo", ""), ("ordering", "-pk")]⟩
    let endpoint := ofTable Sample.Label .acceptAll .standard none
    let labels : List Sample.Label := [⟨6, "peach"⟩, ⟨3, "plum"⟩]
    (∀ key, p.get? key = q.get? key) ∧
      (endpoint.list "/labels" p someLabels).response.results = labels.map Storable.encode := by
  let : RegexLibrary := .permissive
  intro p q endpoint labels
  have h : ∀ key, p.get? key = q.get? key := by
    intro key
    have hp : p.lastValues = [("memo", ""), ("page", "1"), ("ordering", "-pk"), ("label", "p*"),
        ("page_size", "2")] := by decide
    have hq : q.lastValues = q.pairs := by decide
    rw [← QueryString.lookup_lastValues p key, ← QueryString.lookup_lastValues q key, hp, hq]
    by_cases hmemo : key = "memo"
    · subst hmemo
      rfl
    by_cases hpage : key = "page"
    · subst hpage
      rfl
    by_cases hordering : key = "ordering"
    · subst hordering
      rfl
    by_cases hlabel : key = "label"
    · subst hlabel
      rfl
    simp [q, QueryString.lookup_cons, hmemo, hpage, hordering, hlabel]
  have hfetch : someLabels.fetch (endpoint.selection q) (endpoint.sortKeys q) ⟨0, some 2⟩ =
      labels := by decide
  have hpage : Page.ofQuery q endpoint.settings.page = ⟨1, 2⟩ := by decide
  have hcount : endpoint.counted q someLabels = 3 := by decide
  obtain ⟨_, _, _, hpages, _⟩ := list_of_get?_eq .acceptAll .standard none "/labels" someLabels h
  obtain ⟨_, values, _, _, _, _, hfirst, hsecond, _, _⟩ := hpages rfl
  obtain ⟨hplain, _⟩ :
      (endpoint.list "/labels" q someLabels).response = .ofLinks _ (endpoint.paged q someLabels) ∧ _ :=
    list_of_pages .acceptAll none "/labels" q someLabels rfl
  have hvalues : values = endpoint.paged q someLabels := by
    have := congrArg Response.results (hsecond.symm.trans hplain)
    simpa [Response.ofLinks] using this
  have hpaged : endpoint.paged q someLabels = labels.map Storable.encode := by
    simp only [paged, hpage, hcount]
    rw [if_pos (by decide)]
    exact congrArg (List.map Storable.encode) hfetch
  refine ⟨h, ?_⟩
  rw [hfirst, Response.results_page, hvalues, hpaged]

end Endpoint

end RecordQuery
