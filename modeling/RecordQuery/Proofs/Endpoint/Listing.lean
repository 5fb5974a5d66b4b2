import RecordQuery.Endpoint
import RecordQuery.Proofs.Page.Windows
import RecordQuery.Proofs.Response
import RecordQuery.Proofs.Sorting
import RecordQuery.Proofs.Store.Table
import RecordQuery.Sample.Label

/-!
# Lists as plain evaluation

A list is answered as if every record were held to every filter, the rest sorted, and the page cut
out of it. What a list leaves out (counting and fetching where nothing can match, fetching behind
the last record) does not show in its answer.
-/

namespace RecordQuery

namespace Page

theorem cut_eq_take_drop {α : Type} (page : Page) {xs : List α} (h : xs.length ≤ maxIndex) :
    (if page.offset < xs.length then Window.cut ⟨page.offset, some page.limit⟩ xs else []) =
      (xs.drop ((page.number - 1) * page.size)).take page.size := by
  have hoffset : page.offset = min ((page.number - 1) * page.size) maxIndex := rfl
  split
  · have hexact : page.offset = (page.number - 1) * page.size := by omega
    rw [hexact]
    rfl
  · have hend : xs.length ≤ (page.number - 1) * page.size := by omega
    rw [List.drop_eq_nil_of_le hend, List.take_nil]

end Page

namespace Endpoint

section Store

variable {σ ι : Type} (endpoint : Endpoint σ ι) (query : QueryString)

/-! ## Plain evaluation -/

/-- The ordering that the request names or, if nothing of it can be used, the default one. -/
def plainKeys : List SortKey :=
  let resolve (directive : Option String) : List SortKey :=
    directive.elim [] (SortKey.resolve endpoint.store.schemas endpoint.store.schema)
  match resolve (query.get? endpoint.settings.orderingParam) with
  | [] => resolve endpoint.settings.defaultOrdering
  | key :: keys => key :: keys

theorem sortKeysOf_eq_elim (directive : Option String) :
    endpoint.sortKeysOf directive =
      directive.elim [] (SortKey.resolve endpoint.store.schemas endpoint.store.schema) := by
  cases directive <;> rfl

theorem sortKeys_eq_plainKeys : endpoint.sortKeys query = endpoint.plainKeys query := by
  simp only [sortKeys, plainKeys, sortKeysOf_eq_elim]
  generalize (query.get? endpoint.settings.orderingParam).elim [] _ = requested
  cases requested <;> rfl

variable [RegexLibrary]

/-- The filters that every record of a list is held to: those of the endpoint and those of the
request. -/
def heldFilters : List Filter :=
  endpoint.preFilter.elim [] Selection.filters ++ (endpoint.requestedSelection query).filters

/-- The records that pass every filter, sorted; none if a filter was rejected. -/
def plainList {R : Type} [Storable R] (records : List R) : List R :=
  let filters := endpoint.heldFilters query
  let kept :=
    if filters.all Filter.isValid then
      records.filter fun record => filters.all fun filter => filter.isMatch (Storable.view record)
    else []
  sortByKeys (endpoint.plainKeys query) Storable.view kept

theorem filters_selection :
    (endpoint.selection query).filters = endpoint.heldFilters query := by
  unfold selection heldFilters
  cases endpoint.preFilter <;> rfl

theorem isSatisfiable_selection :
    (endpoint.selection query).isSatisfiable = (endpoint.heldFilters query).all Filter.isValid := by
  rw [Selection.isSatisfiable, filters_selection]

theorem isMatch_selection (record : Record) :
    (endpoint.selection query).isMatch record =
      (endpoint.heldFilters query).all fun filter => filter.isMatch record := by
  rw [Selection.isMatch, filters_selection]

theorem selection_congr {τ κ : Type} {other : Endpoint τ κ}
    (hschemas : other.store.schemas = endpoint.store.schemas)
    (hschema : other.store.schema = endpoint.store.schema)
    (hsettings : other.settings = endpoint.settings)
    (hfixed : other.preFilter = endpoint.preFilter) :
    other.selection query = endpoint.selection query := by
  unfold selection requestedSelection
  rw [hschemas, hschema, hsettings, hfixed]

/-! ## Lists that do not fail -/

section Answered

variable {endpoint query} {base : String} {state state' state'' : σ} {response : Response}
variable {total : Nat} {records : List Json}

theorem list_of_ok
    (h : (if endpoint.settings.paginate then endpoint.listPage base query state
      else endpoint.listAll query state) = (.ok response, state')) :
    (endpoint.list base query state).response = response ∧
      (endpoint.list base query state).state = state' := by
  unfold list
  rw [h]
  exact ⟨rfl, rfl⟩

theorem listPage_of_ok
    (hcount : (if (endpoint.selection query).isSatisfiable then
      endpoint.store.count (endpoint.selection query) state else (.ok 0, state)) =
        (.ok total, state'))
    (hfetch : (if (Page.ofQuery query endpoint.settings.page).offset < total then
      endpoint.store.fetch (endpoint.selection query) (endpoint.sortKeys query)
        ⟨(Page.ofQuery query endpoint.settings.page).offset,
          some (Page.ofQuery query endpoint.settings.page).limit⟩ state'
      else (.ok [], state')) = (.ok records, state'')) :
    endpoint.listPage base query state =
      (.ok (.ofLinks ((Page.ofQuery query endpoint.settings.page).paginate total base query
        endpoint.settings.pageParam) records), state'') := by
  simp only [listPage, hcount, hfetch, Response.ofLinks]

theorem listAll_of_ok
    (hfetch : (if (endpoint.selection query).isSatisfiable then
      endpoint.store.fetch (endpoint.selection query) (endpoint.sortKeys query) .all state
      else (.ok [], state)) = (.ok records, state')) :
    endpoint.listAll query state = (.ok (.ok (.array records)), state') := by
  simp only [listAll, hfetch, Except.map]

end Answered

/-! ## Requests that nothing can match -/

/-- The answer to a list that nothing can match, which asks nothing of the store. -/
def emptyAnswer (settings : Settings) (base : String) (query : QueryString) : Response :=
  if settings.paginate then
    .ofLinks ((Page.ofQuery query settings.page).paginate 0 base query settings.pageParam) []
  else .ok (.array [])

theorem list_of_unsatisfiable (base : String) (state : σ)
    (h : (endpoint.selection query).isSatisfiable = false) :
    (endpoint.list base query state).response = emptyAnswer endpoint.settings base query ∧
      (endpoint.list base query state).state = state := by
  apply list_of_ok
  unfold emptyAnswer
  split
  · apply listPage_of_ok
    · rw [h]
      rfl
    · exact if_neg (Nat.not_lt_zero _)
  · apply listAll_of_ok
    rw [h]
    rfl

/-- The answer to a list by plain evaluation: the page cut out of the whole list, or the whole
list where lists have no pages. -/
def plainAnswer {R : Type} [Storable R] (base : String) (records : List R) : Response :=
  let all := endpoint.plainList query records
  if endpoint.settings.paginate then
    let page := Page.ofQuery query endpoint.settings.page
    let links := page.paginate all.length base query endpoint.settings.pageParam
    .page all.length links.next links.previous
      (((all.drop ((page.number - 1) * page.size)).take page.size).map Storable.encode)
  else .ok (.array (all.map Storable.encode))

theorem plainAnswer_of_pages {R : Type} [Storable R] {base : String} {records all : List R}
    {page : Page} (hpaginate : endpoint.settings.paginate = true)
    (hpage : Page.ofQuery query endpoint.settings.page = page)
    (hall : endpoint.plainList query records = all) :
    endpoint.plainAnswer query base records =
      .ofLinks (page.paginate all.length base query endpoint.settings.pageParam)
        (((all.drop ((page.number - 1) * page.size)).take page.size).map Storable.encode) := by
  subst hpage hall
  exact if_pos hpaginate

theorem plainAnswer_of_whole {R : Type} [Storable R] {base : String} {records all : List R}
    (hpaginate : endpoint.settings.paginate = false)
    (hall : endpoint.plainList query records = all) :
    endpoint.plainAnswer query base records = .ok (.array (all.map Storable.encode)) := by
  subst hall
  exact if_neg (by simp [hpaginate])

theorem plainList_of_unsatisfiable {R : Type} [Storable R] (records : List R)
    (h : (endpoint.selection query).isSatisfiable = false) :
    endpoint.plainList query records = [] := by
  rw [isSatisfiable_selection] at h
  rw [plainList, h]
  exact List.perm_nil.mp (sortByKeys_perm _ _ [])

theorem emptyAnswer_eq_plainAnswer {R : Type} [Storable R] (base : String) (records : List R)
    (h : (endpoint.selection query).isSatisfiable = false) :
    emptyAnswer endpoint.settings base query = endpoint.plainAnswer query base records := by
  simp only [plainAnswer, plainList_of_unsatisfiable endpoint query records h, List.drop_nil,
    List.take_nil, List.map_nil, List.length_nil]
  rfl

end Store

/-! ## Tables -/

section Table

variable {R : Type} [Storable R]

def ofTable (R : Type) [Storable R] (validate : Validator) (settings : Settings)
    (preFilter : Option Selection) : Endpoint (Table R) UInt64 :=
  ⟨Table.store R, validate, settings, preFilter⟩

variable [RegexLibrary]
variable (validate : Validator) (settings : Settings) (preFilter : Option Selection)
variable (base : String) (query : QueryString) (table : Table R)

section Satisfiable

variable (h : ((ofTable R validate settings preFilter).selection query).isSatisfiable = true)
include h

theorem matching_eq_plainList :
    let endpoint := ofTable R validate settings preFilter
    table.matching (endpoint.selection query) (endpoint.sortKeys query) =
      endpoint.plainList query table.records := by
  intro endpoint
  have hvalid := h
  rw [isSatisfiable_selection] at hvalid
  simp only [Table.matching, plainList, sortKeys_eq_plainKeys, isMatch_selection]
  rw [if_pos hvalid]

theorem count_eq_length_plainList :
    let endpoint := ofTable R validate settings preFilter
    table.count (endpoint.selection query) = (endpoint.plainList query table.records).length := by
  intro endpoint
  rw [← matching_eq_plainList validate settings preFilter query table h, Table.matching,
    (sortByKeys_perm _ _ _).length_eq, ← List.countP_eq_length_filter]
  rfl

end Satisfiable

theorem length_plainList_le {σ ι : Type} (endpoint : Endpoint σ ι) :
    (endpoint.plainList query table.records).length ≤ table.size := by
  simp only [plainList, (sortByKeys_perm _ _ _).length_eq]
  rw [← Table.length_records]
  split
  · exact List.length_filter_le _ _
  · exact Nat.zero_le _

/-- A list over a table is answered by plain evaluation and leaves the table as it is. -/
theorem list_eq_plainAnswer (hsize : table.size ≤ Page.maxIndex) :
    let endpoint := ofTable R validate settings preFilter
    (endpoint.list base query table).response = endpoint.plainAnswer query base table.records ∧
      (endpoint.list base query table).state = table := by
  intro endpoint
  cases hsat : (endpoint.selection query).isSatisfiable with
  | false =>
    rw [← emptyAnswer_eq_plainAnswer endpoint query base table.records hsat]
    exact list_of_unsatisfiable endpoint query base table hsat
  | true =>
    have hmatching := matching_eq_plainList validate settings preFilter query table hsat
    have hcount := count_eq_length_plainList validate settings preFilter query table hsat
    have hlength := length_plainList_le query table endpoint
    have hcut := (Page.ofQuery query endpoint.settings.page).cut_eq_take_drop
      (Nat.le_trans hlength hsize)
    apply list_of_ok
    unfold plainAnswer
    split
    · apply listPage_of_ok
      · rw [hsat, if_pos rfl]
        exact congrArg (fun n => (Except.ok n, table)) hcount
      · rw [← hcut]
        split
        · exact congrArg (fun all => (Except.ok ((Window.cut _ all).map _), table)) hmatching
        · rfl
    · apply listAll_of_ok
      rw [hsat, if_pos rfl]
      exact congrArg (fun all : List R => (Except.ok (all.map Storable.encode), table)) hmatching

variable {table}

/-- A list over a table agrees with plain evaluation. The records in the order of their numbers
that pass every filter of the endpoint and of the request are sorted; a page reports their number,
shows its part of them, and has links exactly where records follow and where pages come before.
Where a filter was rejected, every store with this schema gives the same answer, whatever it holds
and even if it always fails. Both sides sort by `stableSort`; where the records are not totally
preordered by the ordering, nothing is said of other sorts. -/
theorem list_agrees_with_plain_evaluation (h : table.WellFormed) :
    let endpoint := ofTable R validate settings preFilter
    let answer := endpoint.list base query table
    let all := endpoint.plainList query table.byNumber
    let page := Page.ofQuery query settings.page
    answer.response.status = .ok ∧ answer.state = table ∧
      (settings.paginate = true → ∃ next previous,
        answer.response = .page all.length next previous
          (((all.drop ((page.number - 1) * page.size)).take page.size).map Storable.encode) ∧
        answer.response.count? = some (all.length : Int) ∧
        (next.isSome ↔ page.number * page.size < all.length) ∧
        (previous.isSome ↔ 1 < page.number)) ∧
      (settings.paginate = false →
        answer.response = .ok (.array (all.map Storable.encode))) ∧
      ((∃ filter ∈ endpoint.heldFilters query, filter.isValid = false) →
        ∀ {σ ι : Type} (other : Endpoint σ ι) (state : σ),
          other.store.schemas = Storable.schemas R → other.store.schema = Storable.schema R →
          other.settings = settings → other.preFilter = preFilter →
          (other.list base query state).response = answer.response ∧
            (other.list base query state).state = state) := by
  intro endpoint answer all page
  have hall : all = endpoint.plainList query table.records := by
    rw [← h.byNumber_eq]
  obtain ⟨hresponse, hstate⟩ :=
    list_eq_plainAnswer validate settings preFilter base query table h.size_le
  have hlength : all.length ≤ Page.maxIndex := by
    rw [hall]
    exact Nat.le_trans (length_plainList_le query table endpoint) h.size_le
  have hnumber : 1 ≤ page.number := Page.number_pos query settings.page
  refine ⟨?_, hstate, ?_, ?_, ?_⟩
  · cases hp : settings.paginate with
    | true => rw [hresponse, plainAnswer_of_pages endpoint query hp rfl hall.symm]; rfl
    | false => rw [hresponse, plainAnswer_of_whole endpoint query hp hall.symm]; rfl
  · intro hp
    have hanswer := hresponse.trans (plainAnswer_of_pages endpoint query hp rfl hall.symm)
    refine ⟨_, _, hanswer, ?_, Page.next_isSome_iff hnumber hlength base query _,
      Page.previous_isSome_iff hnumber all.length base query _⟩
    rw [hanswer]
    exact Response.count?_page _ _ _ _ hlength
  · intro hp
    exact hresponse.trans (plainAnswer_of_whole endpoint query hp hall.symm)
  · rintro ⟨filter, hmem, hinvalid⟩ σ ι other state hschemas hschema hsettings hfixed
    have hsat : (endpoint.selection query).isSatisfiable = false := by
      rw [isSatisfiable_selection, List.all_eq_false]
      exact ⟨filter, hmem, by simp [hinvalid]⟩
    have hother : (other.selection query).isSatisfiable = false := by
      rw [selection_congr endpoint query hschemas hschema hsettings hfixed, hsat]
    obtain ⟨hleft, hstay⟩ := list_of_unsatisfiable other query base state hother
    obtain ⟨hright, _⟩ := list_of_unsatisfiable endpoint query base table hsat
    rw [hsettings] at hleft
    exact ⟨hleft.trans hright.symm, hstay⟩

end Table

/-! ## A table of labels -/

def someLabels : Table Sample.Label :=
  ⟨[(1, ⟨1, "pear"⟩), (3, ⟨3, "plum"⟩), (4, ⟨4, "fig"⟩), (6, ⟨6, "peach"⟩)], 7, "pk", []⟩

theorem wellFormed_someLabels : someLabels.WellFormed := by
  refine ⟨?_, by decide⟩
  unfold Rows.Ascending
  decide

/-- The second page of the labels that start with a letter, from the last to the first. -/
theorem list_of_someLabels :
    letI : RegexLibrary := .permissive
    let endpoint := ofTable Sample.Label .acceptAll .standard none
    let query : QueryString :=
      ⟨[("label", "p*"), ("ordering", "-pk"), ("page", "2"), ("page_size", "2")]⟩
    someLabels.WellFormed ∧ ∃ next previous,
      (endpoint.list "/labels" query someLabels).response =
        .page 3 next previous [Storable.encode (⟨1, "pear"⟩ : Sample.Label)] ∧
      next.isSome = false ∧ previous.isSome = true := by
  let : RegexLibrary := .permissive
  intro endpoint query
  have hall : endpoint.plainList query someLabels.byNumber =
      [⟨6, "peach"⟩, ⟨3, "plum"⟩, ⟨1, "pear"⟩] := by
    rw [wellFormed_someLabels.byNumber_eq]
    decide
  have hpage : Page.ofQuery query Settings.standard.page = ⟨2, 2⟩ := by decide
  have h := list_agrees_with_plain_evaluation .acceptAll .standard none "/labels" query
    wellFormed_someLabels
  obtain ⟨_, _, hpages, _, _⟩ := h
  obtain ⟨next, previous, hresponse, _, hnext, hprevious⟩ := hpages rfl
  rw [hall, hpage] at hresponse hnext
  rw [hpage] at hprevious
  refine ⟨wellFormed_someLabels, next, previous, hresponse, ?_, hprevious.mpr (by decide)⟩
  exact Bool.eq_false_iff.mpr (mt hnext.mp (by decide))

end Endpoint

end RecordQuery
