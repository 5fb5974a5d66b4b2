import RecordQuery.Proofs.Text.Percent
import RecordQuery.QueryString

/-!
# Written query strings

Written parameters are read back with every key, value and repetition. Main statements:
`parse q.render = q`, and `ofLink (q.url base) = q` for the links that end in them.
-/

namespace RecordQuery.QueryString

open Text

/-- The parameters that a link carries: those behind its first question mark. -/
def ofLink (link : String) : QueryString :=
  parse (String.ofList ((link.toList.dropWhile (· ≠ '?')).drop 1))

/-- The pairs that the pieces of a query string stand for. -/
def readPieces (cs : List Char) : List (String × String) :=
  ((cs.splitOn '&').filter fun piece => !piece.isEmpty).map readPair

theorem parse_ofList {cs : List Char} (h : '?' ∉ cs) :
    parse (String.ofList cs) = ⟨readPieces cs⟩ := by
  unfold parse readPieces
  rw [String.toList_ofList]
  cases cs with
  | nil => rfl
  | cons c cs =>
    have hc : c ≠ '?' := by
      rintro rfl
      exact h List.mem_cons_self
    split
    · rename_i heq
      exact absurd (List.cons.inj heq).1 hc
    · rfl

theorem parse_question (cs : List Char) : parse (String.ofList ('?' :: cs)) = ⟨readPieces cs⟩ := by
  simp only [parse, readPieces, String.toList_ofList]

/-! ## One pair -/

theorem not_mem_renderPair {c : Char} (hcoded : Percent.isCoded c = false) (hc : c ≠ '=')
    (pair : String × String) : c ∉ renderPair pair := by
  intro h
  rcases List.mem_append.mp h with h | h
  · exact Percent.not_mem_encodeChars hcoded _ h
  · rcases List.mem_cons.mp h with h | h
    · exact hc h
    · exact Percent.not_mem_encodeChars hcoded _ h

theorem renderPair_ne_nil (pair : String × String) : renderPair pair ≠ [] := by
  simp [renderPair]

theorem readPair_renderPair (pair : String × String) : readPair (renderPair pair) = pair := by
  have hkey : ∀ c ∈ Percent.encodeChars pair.1.toList, decide (c ≠ '=') = true := by
    intro c hc
    rw [decide_eq_true_eq]
    rintro rfl
    exact Percent.not_mem_encodeChars (by decide) _ hc
  simp only [readPair, renderPair, List.takeWhile_append_of_pos hkey,
    List.dropWhile_append_of_pos hkey]
  simp [Percent.decodeChars_encodeChars]

/-! ## All pairs -/

theorem mem_intercalate_singleton {α : Type} {a sep : α} {ls : List (List α)}
    (h : a ∈ List.intercalate [sep] ls) : a = sep ∨ ∃ l ∈ ls, a ∈ l := by
  induction ls with
  | nil => exact absurd h List.not_mem_nil
  | cons l ls ih =>
    cases ls with
    | nil => exact Or.inr ⟨l, List.mem_cons_self, by simpa using h⟩
    | cons m ls =>
      rw [List.intercalate_cons_cons] at h
      simp only [List.mem_append, List.mem_singleton, or_assoc] at h
      rcases h with h | h | h
      · exact Or.inr ⟨l, List.mem_cons_self, h⟩
      · exact Or.inl h
      · rcases ih h with h | ⟨k, hk, h⟩
        · exact Or.inl h
        · exact Or.inr ⟨k, List.mem_cons_of_mem l hk, h⟩

theorem readPieces_intercalate (pairs : List (String × String)) :
    readPieces (List.intercalate ['&'] (pairs.map renderPair)) = pairs := by
  unfold readPieces
  cases pairs with
  | nil => rfl
  | cons pair pairs =>
    rw [List.splitOn_intercalate]
    · rw [List.filter_eq_self.mpr]
      · have hid : readPair ∘ renderPair = id := funext readPair_renderPair
        rw [List.map_map, hid, List.map_id]
      · intro piece hpiece
        obtain ⟨p, _, rfl⟩ := List.mem_map.mp hpiece
        simpa using renderPair_ne_nil p
    · intro piece hpiece
      obtain ⟨p, _, rfl⟩ := List.mem_map.mp hpiece
      exact not_mem_renderPair (by decide) (by decide) p
    · simp

theorem question_not_mem_intercalate (pairs : List (String × String)) :
    '?' ∉ List.intercalate ['&'] (pairs.map renderPair) := by
  intro h
  rcases mem_intercalate_singleton h with h | ⟨piece, hpiece, h⟩
  · exact absurd h (by decide)
  · obtain ⟨p, _, rfl⟩ := List.mem_map.mp hpiece
    exact not_mem_renderPair (by decide) (by decide) p h

/-- Written parameters are read back, with a question mark in front of them or without. -/
theorem parse_render (q : QueryString) : parse q.render = q ∧ parse ("?" ++ q.render) = q := by
  obtain ⟨pairs⟩ := q
  have hpieces := readPieces_intercalate pairs
  constructor
  · rw [render, parse_ofList (question_not_mem_intercalate pairs), hpieces]
  · have htext : "?" ++ render ⟨pairs⟩ =
        String.ofList ('?' :: List.intercalate ['&'] (pairs.map renderPair)) :=
      (@String.ofList_append ['?'] _).symm
    rw [htext, parse_question, hpieces]

/-! ## Links -/

theorem dropWhile_url (q : QueryString) (base : String) :
    (q.url base).toList.dropWhile (· ≠ '?') =
      if q.pairs.isEmpty then [] else '?' :: q.render.toList := by
  have hbase : ∀ c ∈ base.toList.takeWhile (· ≠ '?'), decide (c ≠ '?') = true := by
    intro c hc
    exact List.all_eq_true.mp List.all_takeWhile c hc
  unfold url
  split
  · rw [String.toList_ofList, ← List.append_nil (base.toList.takeWhile _),
      List.dropWhile_append_of_pos hbase]
    rfl
  · rw [String.toList_append, String.toList_append, String.toList_ofList, List.append_assoc,
      List.dropWhile_append_of_pos hbase]
    rfl

/-- A link carries the parameters that it was made of, whatever its base address. -/
theorem ofLink_url (q : QueryString) (base : String) : ofLink (q.url base) = q := by
  obtain ⟨pairs⟩ := q
  unfold ofLink
  rw [dropWhile_url]
  cases pairs with
  | nil => rfl
  | cons pair pairs =>
    simp only [List.isEmpty_cons, Bool.false_eq_true, ↓reduceIte, List.drop_succ_cons,
      List.drop_zero, render, String.toList_ofList]
    rw [parse_ofList (question_not_mem_intercalate _), readPieces_intercalate]

end RecordQuery.QueryString
