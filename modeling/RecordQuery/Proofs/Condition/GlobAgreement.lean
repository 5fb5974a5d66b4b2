import RecordQuery.Proofs.Condition.TextForms
import RecordQuery.Proofs.Glob.Expression
import RecordQuery.Proofs.Text.Lower

/-!
# Text conditions as patterns

A text value with a star is also the source of a pattern. In ASCII, the condition that is read from
the value holds of the texts that the pattern matches, wherever the stars stand.
-/

namespace RecordQuery.Condition

open Text (EqUpToCase IsAscii)

variable {core : List Char} {type : FieldType}

/-- In ASCII, a part is found where it stands up to case. -/
theorem holds_between_iff_of_ascii (before behind : Bool) {part text : String}
    (hpart : IsAscii part.toList) (htext : IsAscii text.toList) :
    (between before behind part).holds (.text text) = true ↔
      ∃ front piece back, text.toList = front ++ (piece ++ back) ∧ EqUpToCase part.toList piece ∧
        (before = false → front = []) ∧ (behind = false → back = []) := by
  rw [holds_between_iff, hpart.lowerChars_eq, htext.lowerChars_eq]
  constructor
  · rintro ⟨_, _, hlower, hfront, hback⟩
    obtain ⟨front, rest, htext, rfl, hrest⟩ := List.map_eq_append_iff.mp hlower
    obtain ⟨piece, back, rfl, hpiece, rfl⟩ := List.map_eq_append_iff.mp hrest
    exact ⟨front, piece, back, htext, hpiece.symm, fun h => List.map_eq_nil_iff.mp (hfront h),
      fun h => List.map_eq_nil_iff.mp (hback h)⟩
  · rintro ⟨front, piece, back, htext, hpiece, hfront, hback⟩
    refine ⟨front.map Text.foldChar, back.map Text.foldChar, ?_,
      fun h => List.map_eq_nil_iff.mpr (hfront h), fun h => List.map_eq_nil_iff.mpr (hback h)⟩
    rw [htext, List.map_append, List.map_append, ← hpiece]

theorem exists_stars (cs : List Char) :
    ∃ m n, cs = List.replicate m '*' ++ (Text.strip (· = '*') cs ++ List.replicate n '*') := by
  obtain ⟨lead, trail, hcs, hlead, htrail⟩ := Text.exists_strip (· = '*') cs
  refine ⟨lead.length, trail.length, ?_⟩
  have hstars {stars : List Char} (h : ∀ c ∈ stars, decide (c = '*') = true) :
      List.replicate stars.length '*' = stars :=
    (List.eq_replicate_of_mem fun c hc => of_decide_eq_true (h c hc)).symm
  rw [hstars hlead, hstars htrail]
  exact hcs

theorem operator_between {before behind : Bool} (part : String)
    (h : before = true ∨ behind = true) :
    (between before behind part).operator ∈ [.startsWith, .endsWith, .contains, .wildcard] := by
  rcases h with rfl | rfl
  · cases behind <;> simp [between, operator]
  · cases before <;> simp [between, operator]

/-- Between stars a part asks for the texts that the pattern of the same source matches. -/
theorem holds_between_eq_isMatch {m n : Nat} {glob : Glob} {text : String}
    (hcore : '*' ∉ core) (hascii : IsAscii core) (htext : IsAscii text.toList)
    (hsource : glob.source.toList = List.replicate m '*' ++ (core ++ List.replicate n '*')) :
    (between (0 < m) (0 < n) (String.ofList core)).holds (.text text) = glob.isMatch text := by
  rw [Bool.eq_iff_iff, Glob.isMatch_iff_spells, hsource, Glob.spells_segments_between_iff m n hcore,
    holds_between_iff_of_ascii _ _ (by rwa [String.toList_ofList]) htext, String.toList_ofList]
  simp only [decide_eq_false_iff_not, Nat.not_lt, Nat.le_zero]

theorem holds_stars_eq_isMatch {k : Nat} {glob : Glob} (text : String)
    (hsource : glob.source.toList = List.replicate (k + 1) '*') :
    (between true true "").holds (.text text) = glob.isMatch text := by
  rw [Bool.eq_iff_iff, Glob.isMatch_iff_spells, hsource, holds_between_iff]
  rw [← List.append_nil (List.replicate (k + 1) '*'), Glob.spells_segments_stars_iff]
  constructor
  · intro _
    exact ⟨text.toList, [], (List.append_nil _).symm, by simp, Glob.spells_segments_nil_iff.mpr rfl⟩
  · intro _
    exact ⟨[], Text.lowerChars text.toList, rfl, by simp, by simp⟩

/-- An ASCII value with a star is read as a condition on a part or on a pattern, and this condition
holds of an ASCII text exactly if the pattern with the value as its source matches the text. -/
theorem text_condition_agrees_with_glob [RegexLibrary] (htype : type.isTextual = true)
    {raw : String} (hascii : IsAscii raw.toList) (hstar : '*' ∈ raw.toList) {glob : Glob}
    (hglob : Glob.compile raw = .ok glob) :
    ∃ condition, classify type raw = .ok condition ∧
      condition.operator ∈ [.startsWith, .endsWith, .contains, .wildcard] ∧
      ∀ text : String, IsAscii text.toList → condition.holds (.text text) = glob.isMatch text := by
  have hsource := Glob.source_of_compile hglob
  obtain ⟨m, n, hraw⟩ := exists_stars raw.toList
  rw [classify_of_isTextual htype]
  by_cases hinner : '*' ∈ Text.strip (· = '*') raw.toList
  · refine ⟨wildcard glob, ?_, by simp [operator], fun _ _ => rfl⟩
    rw [ofText_eq, if_neg (not_not_intro hstar), if_pos hinner, hglob]
    rfl
  · generalize Text.strip (· = '*') raw.toList = core at hraw hinner
    have hcore : IsAscii core := fun c hc => hascii c (by rw [hraw]; simp [hc])
    have hends : 0 < m ∨ 0 < n := by
      rw [hraw] at hstar
      rcases List.mem_append.mp hstar with hmem | hmem
      · exact Or.inl (Nat.pos_of_ne_zero (List.mem_replicate.mp hmem).1)
      · rcases List.mem_append.mp hmem with hmem | hmem
        · exact absurd hmem hinner
        · exact Or.inr (Nat.pos_of_ne_zero (List.mem_replicate.mp hmem).1)
    by_cases hne : core = []
    · obtain ⟨k, hk⟩ : ∃ k, m + n = k + 1 := Nat.exists_eq_succ_of_ne_zero (by omega)
      have hstars : raw.toList = List.replicate (k + 1) '*' := by
        rw [hraw, hne, List.nil_append, List.replicate_append_replicate, hk]
      rw [← String.ofList_toList (s := raw), hstars, ofText_stars]
      refine ⟨_, rfl, operator_between "" (Or.inl rfl), fun text _ => ?_⟩
      exact holds_stars_eq_isMatch text (hsource ▸ hstars)
    · rw [← String.ofList_toList (s := raw), hraw, ofText_between m n hinner hne]
      refine ⟨_, rfl, operator_between _ ?_, fun text htext =>
        holds_between_eq_isMatch hinner hcore htext (hsource ▸ hraw)⟩
      simpa using hends

/-- Adjacent stars before a part and one behind it. -/
theorem text_condition_agrees_with_glob_of_part :
    letI : RegexLibrary := .permissive
    let glob : Glob := ⟨"**aB.*"⟩
    FieldType.isTextual .datetime = true ∧ IsAscii "**aB.*".toList ∧ '*' ∈ "**aB.*".toList ∧
      Glob.compile "**aB.*" = .ok glob ∧ IsAscii "xAb.y".toList ∧
      ∃ condition, classify .datetime "**aB.*" = .ok condition ∧
        condition.holds (.text "xAb.y") = true := by
  intro glob
  let : RegexLibrary := .permissive
  have htype : FieldType.isTextual .datetime = true := rfl
  have hascii : IsAscii "**aB.*".toList := by decide
  have hstar : '*' ∈ "**aB.*".toList := by decide
  have hglob : Glob.compile "**aB.*" = .ok glob := rfl
  have htext : IsAscii "xAb.y".toList := by decide
  obtain ⟨condition, hread, _, hholds⟩ :=
    text_condition_agrees_with_glob htype hascii hstar hglob
  exact ⟨htype, hascii, hstar, hglob, htext, condition, hread, (hholds _ htext).trans (by decide)⟩

end RecordQuery.Condition
