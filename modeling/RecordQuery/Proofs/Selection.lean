import RecordQuery.Proofs.Filter
import RecordQuery.Proofs.QueryString.Lookup
import RecordQuery.Selection

/-!
# Selections as sets of filters

A selection asks for the filters of the last values that are neither reserved nor empty, one for
each key, in the order in which the keys are first written. What it selects depends on which filters
it has and not on their order.
-/

namespace RecordQuery.Selection

theorem mem_requested_iff {query : QueryString} {reserved : List String} {key value : String} :
    (key, value) ∈ requested query reserved ↔
      query.get? key = some value ∧ key ∉ reserved ∧ value.isEmpty = false := by
  simp [requested, QueryString.mem_lastValues_iff]

section Build

variable [RegexLibrary]

theorem mem_filters_build_iff {schemas : Schemas} {schema : Schema} {query : QueryString}
    {reserved : List String} {filter : Filter} :
    filter ∈ (build schemas schema query reserved).filters ↔
      ∃ key value, (query.get? key = some value ∧ key ∉ reserved ∧ value.isEmpty = false) ∧
        Filter.parse schemas schema key value = filter := by
  simp only [build, List.mem_map, Prod.exists, mem_requested_iff]

theorem mem_filters_of_key_iff {schemas : Schemas} {schema : Schema} {query : QueryString}
    {reserved : List String} {key : String} {filter : Filter} :
    filter ∈ (build schemas schema query reserved).filters ∧ filter.key = key ↔
      key ∉ reserved ∧ ∃ value, query.get? key = some value ∧ value ≠ "" ∧
        filter = Filter.parse schemas schema key value := by
  rw [mem_filters_build_iff]
  constructor
  · rintro ⟨⟨written, value, ⟨hget, hfree, hfull⟩, rfl⟩, rfl⟩
    rw [Filter.key_parse]
    exact ⟨hfree, value, hget, String.isEmpty_eq_false_iff.mp hfull, rfl⟩
  · rintro ⟨hfree, value, hget, hfull, rfl⟩
    exact ⟨⟨key, value, ⟨hget, hfree, String.isEmpty_eq_false_iff.mpr hfull⟩, rfl⟩,
      Filter.key_parse schemas schema key value⟩

theorem keys_build (schemas : Schemas) (schema : Schema) (query : QueryString)
    (reserved : List String) :
    (build schemas schema query reserved).filters.map Filter.key =
      (requested query reserved).map Prod.fst := by
  rw [build, List.map_map]
  apply List.map_congr_left
  intro pair _
  exact Filter.key_parse schemas schema pair.1 pair.2

/-- The filters have different keys, of which none is reserved. A key that is not reserved has the
filter of its last value, if it has a last value and that is not empty, and no other filter. The
filters stand in the order in which their keys are first written. -/
theorem filters_of_last_values (schemas : Schemas) (schema : Schema) (query : QueryString)
    (reserved : List String) :
    let filters := (build schemas schema query reserved).filters
    let keys := query.pairs.map Prod.fst
    (filters.map Filter.key).Nodup ∧
      (∀ key ∈ filters.map Filter.key, key ∉ reserved) ∧
      (∀ key filter, filter ∈ filters ∧ filter.key = key ↔
        key ∉ reserved ∧ ∃ value, query.get? key = some value ∧ value ≠ "" ∧
          filter = Filter.parse schemas schema key value) ∧
      filters.Pairwise fun a b => keys.idxOf a.key < keys.idxOf b.key := by
  intro filters keys
  have hkeys : filters.map Filter.key = (requested query reserved).map Prod.fst :=
    keys_build schemas schema query reserved
  have hsublist : ((requested query reserved).map Prod.fst).Sublist
      (query.lastValues.map Prod.fst) := List.filter_sublist.map Prod.fst
  rw [← hkeys] at hsublist
  refine ⟨query.nodup_keys_lastValues.sublist hsublist, ?_,
    fun _ _ => mem_filters_of_key_iff, ?_⟩
  · intro key hkey
    obtain ⟨filter, hmem, hkey⟩ := List.mem_map.mp hkey
    exact (mem_filters_of_key_iff.mp ⟨hmem, hkey⟩).1
  · have horder := query.pairwise_keys_lastValues.sublist hsublist
    rw [List.pairwise_map] at horder
    exact horder

end Build

/-- A later empty value takes an earlier filter away, and a reserved key stands between others. -/
theorem filters_of_last_values_of_repeated_keys :
    letI : RegexLibrary := .permissive
    let item : Schema := ⟨"Item", [⟨"name", .text⟩, ⟨"size", .integer⟩]⟩
    let query : QueryString := ⟨[("colour", "red"), ("size", "4"), ("page", "2"), ("name", "lamp"),
      ("size", ">=5"), ("colour", "blue"), ("name", "")]⟩
    let filters := (build (.ofList []) item query defaultReserved).filters
    filters = [⟨"colour", .rejected (.unknownField "Item" "colour")⟩,
        ⟨"size", .valid .integer (.atLeast (.signed 5))⟩] ∧
      "colour" ∈ filters.map Filter.key ∧ "colour" ∉ defaultReserved ∧
      query.get? "colour" = some "blue" ∧ query.get? "name" = some "" ∧
      ∀ filter ∈ filters, filter.key ≠ "name" := by
  let : RegexLibrary := .permissive
  intro item query filters
  obtain ⟨_, hfree, hfilter, _⟩ := filters_of_last_values (.ofList []) item query defaultReserved
  have hfilters : filters = [⟨"colour", .rejected (.unknownField "Item" "colour")⟩,
      ⟨"size", .valid .integer (.atLeast (.signed 5))⟩] := by decide
  have hcolour : "colour" ∈ filters.map Filter.key := by
    rw [hfilters]
    exact List.mem_cons_self
  have hname : query.get? "name" = some "" := by decide
  refine ⟨hfilters, hcolour, hfree _ hcolour, by decide, hname, ?_⟩
  intro filter hmem hkey
  obtain ⟨_, value, hget, hfull, _⟩ := (hfilter "name" filter).mp ⟨hmem, hkey⟩
  rw [hname] at hget
  exact hfull (Option.some.inj hget).symm

/-- Two selections with the same filters, in whatever order and however often. -/
def SameFilters (a b : Selection) : Prop := ∀ filter, filter ∈ a.filters ↔ filter ∈ b.filters

theorem sameFilters_build [RegexLibrary] {schemas : Schemas} {schema : Schema}
    {reserved : List String} {p q : QueryString} (h : ∀ key, p.get? key = q.get? key) :
    SameFilters (build schemas schema p reserved) (build schemas schema q reserved) := by
  intro filter
  simp only [mem_filters_build_iff, h]

namespace SameFilters

variable {a b : Selection} (h : SameFilters a b)
include h

theorem and_left (fixed : Selection) : SameFilters (fixed.and a) (fixed.and b) := by
  intro filter
  simp only [Selection.and, List.mem_append, h filter]

theorem all_eq (p : Filter → Bool) : a.filters.all p = b.filters.all p := by
  rw [Bool.eq_iff_iff, List.all_eq_true, List.all_eq_true]
  exact forall_congr' fun filter => imp_congr_left (h filter)

theorem isSatisfiable_eq : a.isSatisfiable = b.isSatisfiable := h.all_eq Filter.isValid

theorem isMatch_eq : a.isMatch = b.isMatch := by
  funext record
  exact h.all_eq fun filter => filter.isMatch record

end SameFilters

end RecordQuery.Selection
