import RecordQuery.Proofs.Page.Links

/-!
# Windows of pages

The place of a page in a list is worked out within 64 bits, and every decision that is taken on it
is the one that exact arithmetic takes. The pages of one size cut a list into neighbouring windows,
and each element that a page number can reach stands in one of them.
-/

namespace RecordQuery.Page

variable {page : Page} {total length size number index : Nat}

/-! ## The window of a page -/

/-- What the page of a number shows of a list: the place of its first element and the place behind
its last one. -/
def span (size length number : Nat) : Nat × Nat :=
  (min ((number - 1) * size) length, min (number * size) length)

theorem min_saturate {n : Nat} (h : length ≤ maxIndex) :
    min (saturate n) length = min n length := by
  rw [saturate]
  omega

theorem window_paginate (hpage : 1 ≤ page.number) (hlength : length ≤ maxIndex) (total : Nat)
    (base : String) (query : QueryString) (pageParam : String) :
    (page.paginate total base query pageParam).window length =
      span page.size length page.number := by
  have hstart : min page.offset length = min ((page.number - 1) * page.size) length :=
    min_saturate hlength
  have hstop : min (saturate (page.offset + page.limit)) length =
      min (page.number * page.size) length := by
    rw [saturate_end hpage, min_saturate hlength]
  exact Prod.ext hstart hstop

theorem span_ordered (size length number : Nat) :
    (span size length number).1 ≤ (span size length number).2 ∧
      (span size length number).2 ≤ length := by
  have hmul : (number - 1) * size ≤ number * size := Nat.mul_le_mul_right size (Nat.sub_le number 1)
  simp only [span]
  omega

theorem span_adjacent (size length number : Nat) :
    (span size length number).2 = (span size length (number + 1)).1 := rfl

/-- An element stands in the window of one number: as often as the size goes into the elements
before it, and once more. -/
theorem mem_span_iff (hsize : 1 ≤ size) (hindex : index < length) (hnumber : 1 ≤ number) :
    ((span size length number).1 ≤ index ∧ index < (span size length number).2) ↔
      number = index / size + 1 := by
  obtain ⟨n, rfl⟩ := Nat.exists_eq_add_of_le' hnumber
  have hplace : index / size = n ↔ n * size ≤ index ∧ index < (n + 1) * size := by
    rw [Nat.div_eq_iff hsize, Nat.succ_mul]
    omega
  simp only [span, Nat.add_sub_cancel]
  omega

/-! ## Neighbours -/

theorem next_isSome_iff {page : Page} (hpage : 1 ≤ page.number) {total : Nat}
    (htotal : total ≤ maxIndex) (base : String) (query : QueryString) (pageParam : String) :
    (page.paginate total base query pageParam).next.isSome ↔ page.number * page.size < total := by
  rw [← saturate_lt_iff hpage htotal]
  simp only [paginate]
  split <;> simp_all

theorem previous_isSome_iff {page : Page} (hpage : 1 ≤ page.number) (total : Nat)
    (base : String) (query : QueryString) (pageParam : String) :
    (page.paginate total base query pageParam).previous.isSome ↔ 1 < page.number := by
  simp only [paginate]
  split
  · simp_all
  · split <;> simp <;> omega

/-! ## Pages that are asked for -/

theorem size_bounds (query : QueryString) {settings : PageSettings}
    (hdefault : 1 ≤ settings.defaultSize) (hmax : settings.defaultSize ≤ settings.maxSize) :
    1 ≤ (ofQuery query settings).size ∧ (ofQuery query settings).size ≤ settings.maxSize := by
  simp only [ofQuery, withLimits]
  split
  · omega
  · exact ⟨hdefault, hmax⟩

/-- A page that is asked for has a number from one on and an allowed size, and 64 bits hold the
number behind it. Whether a page follows it and what it shows are as in exact arithmetic, and the
windows of the pages of its size are neighbours: an element at a place below `2 ^ 63 - 1` stands in
one of them and in no other. -/
theorem page_arithmetic_is_exact (query : QueryString) {settings : PageSettings}
    (hdefault : 1 ≤ settings.defaultSize) (hmax : settings.defaultSize ≤ settings.maxSize)
    {total length : Nat} (htotal : total ≤ maxIndex) (hlength : length ≤ maxIndex)
    (base : String) (params : QueryString) (pageParam : String) :
    let page := ofQuery query settings
    let links (number : Nat) := paginate ⟨number, page.size⟩ total base params pageParam
    let window (number : Nat) := (links number).window length
    (1 ≤ page.number ∧ 1 ≤ page.size ∧ page.size ≤ settings.maxSize ∧
      page.number + 1 ≤ maxIndex) ∧
    ((links page.number).next.isSome ↔ page.number * page.size < total) ∧
    (∀ number, 1 ≤ number →
      window number =
        (min ((number - 1) * page.size) length, min (number * page.size) length) ∧
      (window number).1 ≤ (window number).2 ∧ (window number).2 ≤ length ∧
      (window number).2 = (window (number + 1)).1) ∧
    ∀ index, index < length → index < 2 ^ 63 - 1 →
      ∃ number, 1 ≤ number ∧ number < 2 ^ 63 ∧ ∀ other, 1 ≤ other →
        ((window other).1 ≤ index ∧ index < (window other).2 ↔ other = number) := by
  intro page links window
  have hnumber : 1 ≤ page.number := number_pos query settings
  have hnext : page.number + 1 ≤ maxIndex := by
    have hlast : page.number < 2 ^ 63 := number_lt query settings
    simp only [maxIndex, UInt64.size]
    omega
  obtain ⟨hsize, hsizes⟩ := size_bounds query hdefault hmax
  have hwindow {number : Nat} (h : 1 ≤ number) : window number = span page.size length number :=
    window_paginate h hlength total base params pageParam
  refine ⟨⟨hnumber, hsize, hsizes, hnext⟩,
    next_isSome_iff hnumber htotal base params pageParam, ?_, ?_⟩
  · intro number h
    rw [hwindow h, hwindow (Nat.le_add_left 1 number)]
    obtain ⟨hordered, hinside⟩ := span_ordered page.size length number
    exact ⟨rfl, hordered, hinside, span_adjacent page.size length number⟩
  · intro index hindex hreach
    have hplace : index / page.size ≤ index := Nat.div_le_self index page.size
    refine ⟨index / page.size + 1, Nat.le_add_left 1 _, by omega, ?_⟩
    intro other h
    rw [hwindow h]
    exact mem_span_iff hsize hindex h

/-- The last page number there is, in the longest list there is: the offset passes 64 bits. -/
theorem page_arithmetic_of_last_number :
    let settings := PageSettings.standard
    let query : QueryString := ⟨[("page", "9223372036854775807"), ("page_size", " +100 ")]⟩
    let page := ofQuery query settings
    let links := page.paginate maxIndex "/items" query "page"
    1 ≤ settings.defaultSize ∧ settings.defaultSize ≤ settings.maxSize ∧
      page = ⟨2 ^ 63 - 1, 100⟩ ∧ maxIndex < (page.number - 1) * page.size ∧
      ¬links.next.isSome ∧ links.window maxIndex = (maxIndex, maxIndex) ∧
      ∃ number, number < 2 ^ 63 ∧ ∀ other, 1 ≤ other →
        let window := (paginate ⟨other, 100⟩ maxIndex "/items" query "page").window maxIndex
        (window.1 ≤ 2 ^ 63 - 2 ∧ 2 ^ 63 - 2 < window.2 ↔ other = number) := by
  intro settings query page links
  have hdefault : 1 ≤ settings.defaultSize := by decide
  have hmax : settings.defaultSize ≤ settings.maxSize := by decide
  have hpage : page = ⟨2 ^ 63 - 1, 100⟩ := by decide
  obtain ⟨_, hnext, hwindow, hplace⟩ := page_arithmetic_is_exact query hdefault hmax
    (Nat.le_refl maxIndex) (Nat.le_refl maxIndex) "/items" query "page"
  obtain ⟨number, _, hnumber, hother⟩ := hplace (2 ^ 63 - 2) (by decide) (by decide)
  refine ⟨hdefault, hmax, hpage, by rw [hpage]; decide, ?_, ?_, number, hnumber, ?_⟩
  · intro hsome
    have hless := hnext.mp hsome
    change page.number * page.size < maxIndex at hless
    rw [hpage] at hless
    exact absurd hless (by decide)
  · have hfirst := (hwindow page.number (by rw [hpage]; decide)).1
    refine hfirst.trans ?_
    change (min ((page.number - 1) * page.size) maxIndex,
      min (page.number * page.size) maxIndex) = _
    rw [hpage]
    decide
  · have hsize : (ofQuery query settings).size = 100 := congrArg Page.size hpage
    rw [hsize] at hother
    exact hother

end RecordQuery.Page
