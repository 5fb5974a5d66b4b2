import RecordQuery.Glob

/-!
# Texts cut at the stars of a pattern

A text spells a list of literals when it consists of them, up to case, with any run between two of
them. The matcher takes the first place of each literal behind a star; it finds a cut of the text
whenever there is one.
-/

namespace RecordQuery

namespace Text

/-- The same text, character by character, up to simple case folding. -/
def EqUpToCase (a b : List Char) : Prop := a.map foldChar = b.map foldChar

namespace EqUpToCase

variable {a b : List Char} {c : Char}

theorem length_eq (h : EqUpToCase a b) : a.length = b.length := by
  simpa using congrArg List.length h

theorem append_left_iff {a' : List Char} :
    EqUpToCase (a ++ a') b ↔
      ∃ front back, b = front ++ back ∧ EqUpToCase a front ∧ EqUpToCase a' back := by
  simp only [EqUpToCase, List.map_append]
  constructor
  · intro h
    obtain ⟨front, back, rfl, hfront, hback⟩ := List.map_eq_append_iff.mp h.symm
    exact ⟨front, back, rfl, hfront.symm, hback.symm⟩
  · rintro ⟨front, back, rfl, hfront, hback⟩
    rw [List.map_append, hfront, hback]

theorem nil_left_iff : EqUpToCase [] b ↔ b = [] := by
  simp [EqUpToCase]

theorem cons_left_iff :
    EqUpToCase (c :: a) b ↔ ∃ d bs, b = d :: bs ∧ foldChar c = foldChar d ∧ EqUpToCase a bs := by
  simp only [EqUpToCase, List.map_cons]
  constructor
  · intro h
    obtain ⟨d, bs, rfl, hd, hbs⟩ := List.map_eq_cons_iff.mp h.symm
    exact ⟨d, bs, rfl, hd.symm, hbs.symm⟩
  · rintro ⟨d, bs, rfl, hd, hbs⟩
    rw [List.map_cons, hd, hbs]

end EqUpToCase

end Text

namespace Glob

open Text (EqUpToCase)

/-- The text consists of pieces that are the literals up to case, in order, and of one run of any
characters between each piece and the next. -/
inductive Spells : (literals : List (List Char)) → (text : List Char) → Prop where
  | last {literal piece : List Char} : EqUpToCase literal piece → Spells [literal] piece
  | star {literal piece : List Char} {literals : List (List Char)} {rest : List Char}
      (run : List Char) : EqUpToCase literal piece → Spells literals rest →
      Spells (literal :: literals) (piece ++ (run ++ rest))

variable {literal text rest run piece core source : List Char} {literals : List (List Char)}

theorem Spells.ne_nil (h : Spells literals text) : literals ≠ [] := by
  cases h with
  | last => exact List.cons_ne_nil _ _
  | star => exact List.cons_ne_nil _ _

/-- The pieces take up as many characters as the literals have. -/
theorem Spells.length_le (h : Spells literals text) : literals.flatten.length ≤ text.length := by
  induction h with
  | last hpiece => simp [hpiece.length_eq]
  | star run hpiece _ ih =>
    simp only [List.flatten_cons, List.length_append, hpiece.length_eq]
    omega

theorem spells_singleton_iff : Spells [literal] text ↔ EqUpToCase literal text := by
  constructor
  · intro h
    cases h with
    | last hpiece => exact hpiece
    | star run _ hrest => exact absurd rfl hrest.ne_nil
  · exact Spells.last

theorem spells_cons_iff (hne : literals ≠ []) :
    Spells (literal :: literals) text ↔
      ∃ piece run rest, text = piece ++ (run ++ rest) ∧ EqUpToCase literal piece ∧
        Spells literals rest := by
  constructor
  · intro h
    cases h with
    | last => exact absurd rfl hne
    | star run hpiece hrest => exact ⟨_, run, _, rfl, hpiece, hrest⟩
  · rintro ⟨piece, run, rest, rfl, hpiece, hrest⟩
    exact Spells.star run hpiece hrest

/-! ## Literals -/

theorem dropPrefix?_eq_some_iff :
    dropPrefix? literal text = some rest ↔
      ∃ piece, text = piece ++ rest ∧ EqUpToCase literal piece := by
  induction literal generalizing text with
  | nil => simp [dropPrefix?, Text.EqUpToCase.nil_left_iff, eq_comm]
  | cons c literal ih =>
    cases text with
    | nil =>
      simp only [dropPrefix?, Text.EqUpToCase.cons_left_iff]
      simp
    | cons d text =>
      rw [dropPrefix?]
      split
      · rename_i hsame
        rw [ih]
        constructor
        · rintro ⟨piece, rfl, hpiece⟩
          refine ⟨d :: piece, rfl, Text.EqUpToCase.cons_left_iff.mpr ⟨d, piece, rfl, ?_, hpiece⟩⟩
          simpa [Text.sameUpToCase] using hsame
        · rintro ⟨piece, htext, hpiece⟩
          obtain ⟨e, tail, rfl, _, htail⟩ := Text.EqUpToCase.cons_left_iff.mp hpiece
          obtain ⟨rfl, rfl⟩ := List.cons.inj htext
          exact ⟨tail, rfl, htail⟩
      · rename_i hsame
        constructor
        · intro h
          exact absurd h (by simp)
        · rintro ⟨piece, htext, hpiece⟩
          obtain ⟨e, tail, rfl, hfold, _⟩ := Text.EqUpToCase.cons_left_iff.mp hpiece
          obtain ⟨rfl, _⟩ := List.cons.inj htext
          exact absurd (by simpa [Text.sameUpToCase] using hfold) hsame

theorem exists_of_dropFirst? (h : dropFirst? literal text = some rest) :
    ∃ run piece, text = run ++ (piece ++ rest) ∧ EqUpToCase literal piece := by
  induction text with
  | nil =>
    obtain ⟨piece, htext, hpiece⟩ := dropPrefix?_eq_some_iff.mp h
    exact ⟨[], piece, htext, hpiece⟩
  | cons d text ih =>
    rw [dropFirst?] at h
    split at h
    · rename_i found hfound
      obtain rfl := Option.some.inj h
      obtain ⟨piece, htext, hpiece⟩ := dropPrefix?_eq_some_iff.mp hfound
      exact ⟨[], piece, htext, hpiece⟩
    · obtain ⟨run, piece, rfl, hpiece⟩ := ih h
      exact ⟨d :: run, piece, rfl, hpiece⟩

/-- The first place of a literal leaves at least what any other place leaves. -/
theorem exists_dropFirst? (run rest : List Char) (h : EqUpToCase literal piece) :
    ∃ more, dropFirst? literal (run ++ (piece ++ rest)) = some (more ++ rest) := by
  have hprefix : dropPrefix? literal (piece ++ rest) = some rest :=
    dropPrefix?_eq_some_iff.mpr ⟨piece, rfl, h⟩
  induction run with
  | nil =>
    refine ⟨[], ?_⟩
    rw [List.nil_append, List.nil_append]
    cases htext : piece ++ rest with
    | nil => rw [dropFirst?, ← htext, hprefix]
    | cons d text => rw [dropFirst?, ← htext, hprefix]
  | cons c run ih =>
    rw [List.cons_append, dropFirst?]
    split
    · rename_i found hfound
      obtain ⟨first, htext, hfirst⟩ := dropPrefix?_eq_some_iff.mp hfound
      have hlength : first.length = piece.length := hfirst.length_eq.symm.trans h.length_eq
      have hle : first.length ≤ ((c :: run) ++ piece).length := by
        simp only [List.length_append, List.length_cons, hlength]
        omega
      have hdrop : found = ((c :: run) ++ piece).drop first.length ++ rest := by
        rw [← List.drop_append_of_le_length hle, List.append_assoc, List.cons_append, htext,
          List.drop_left]
      exact ⟨_, congrArg some hdrop⟩
    · exact ih

theorem hasSuffix_iff :
    hasSuffix literal text = true ↔ ∃ run piece, text = run ++ piece ∧ EqUpToCase literal piece := by
  simp only [hasSuffix, Bool.and_eq_true, decide_eq_true_eq, Option.isSome_iff_exists,
    dropPrefix?_eq_some_iff]
  constructor
  · rintro ⟨hle, rest, piece, htail, hpiece⟩
    have hlength := congrArg List.length htail
    simp only [List.length_drop, List.length_append, ← hpiece.length_eq] at hlength
    obtain rfl : rest = [] := List.length_eq_zero_iff.mp (by omega)
    refine ⟨text.take (text.length - literal.length), piece, ?_, hpiece⟩
    rw [← List.append_nil piece, ← htail, List.take_append_drop]
  · rintro ⟨run, piece, rfl, hpiece⟩
    rw [hpiece.length_eq, List.length_append, Nat.add_sub_cancel, List.drop_left]
    exact ⟨Nat.le_add_left _ _, [], piece, (List.append_nil piece).symm, hpiece⟩

/-! ## Lists of literals -/

theorem matchesBehindStar_iff :
    matchesBehindStar literals text = true ↔
      ∃ run rest, text = run ++ rest ∧ Spells literals rest := by
  induction literals generalizing text with
  | nil =>
    simp only [matchesBehindStar, Bool.false_eq_true, false_iff]
    rintro ⟨_, _, _, hspells⟩
    exact hspells.ne_nil rfl
  | cons literal literals ih =>
    cases literals with
    | nil => simp only [matchesBehindStar, hasSuffix_iff, spells_singleton_iff]
    | cons second others =>
      simp only [spells_cons_iff (List.cons_ne_nil second others)]
      rw [matchesBehindStar]
      · constructor
        · intro h
          split at h
          · rename_i behind hfound
            obtain ⟨run, piece, rfl, hpiece⟩ := exists_of_dropFirst? hfound
            obtain ⟨between, rest, rfl, hrest⟩ := ih.mp h
            exact ⟨run, _, rfl, piece, between, rest, rfl, hpiece, hrest⟩
          · exact absurd h Bool.false_ne_true
        · rintro ⟨run, _, rfl, piece, between, rest, rfl, hpiece, hrest⟩
          obtain ⟨more, hfound⟩ := exists_dropFirst? run (between ++ rest) hpiece
          rw [hfound]
          exact ih.mpr ⟨more ++ between, rest, (List.append_assoc _ _ _).symm, hrest⟩
      · simp

theorem matchesSegments_iff : matchesSegments literals text = true ↔ Spells literals text := by
  cases literals with
  | nil =>
    simp only [matchesSegments, Bool.false_eq_true, false_iff]
    exact fun h => h.ne_nil rfl
  | cons literal literals =>
    cases literals with
    | nil =>
      simp only [matchesSegments, beq_iff_eq, dropPrefix?_eq_some_iff, List.append_nil,
        spells_singleton_iff, exists_eq_left']
    | cons second others =>
      rw [spells_cons_iff (List.cons_ne_nil second others), matchesSegments]
      · constructor
        · intro h
          split at h
          · rename_i behind hfound
            obtain ⟨piece, rfl, hpiece⟩ := dropPrefix?_eq_some_iff.mp hfound
            obtain ⟨run, rest, rfl, hrest⟩ := matchesBehindStar_iff.mp h
            exact ⟨piece, run, rest, rfl, hpiece, hrest⟩
          · exact absurd h Bool.false_ne_true
        · rintro ⟨piece, run, rest, rfl, hpiece, hrest⟩
          rw [dropPrefix?_eq_some_iff.mpr ⟨piece, rfl, hpiece⟩]
          exact matchesBehindStar_iff.mpr ⟨run, rest, rfl, hrest⟩
      · simp

/-! ## Sources -/

theorem spells_modifyHead_iff (hne : literals ≠ []) :
    Spells (literals.modifyHead (core ++ ·)) text ↔
      ∃ piece rest, text = piece ++ rest ∧ EqUpToCase core piece ∧ Spells literals rest := by
  obtain ⟨literal, literals, rfl⟩ := List.exists_cons_of_ne_nil hne
  rw [List.modifyHead_cons]
  cases literals with
  | nil => simp only [spells_singleton_iff, Text.EqUpToCase.append_left_iff]
  | cons second others =>
    simp only [spells_cons_iff (List.cons_ne_nil second others), Text.EqUpToCase.append_left_iff]
    constructor
    · rintro ⟨_, run, rest, rfl, ⟨front, back, rfl, hfront, hback⟩, hrest⟩
      exact ⟨front, back ++ (run ++ rest), List.append_assoc _ _ _, hfront, back, run, rest, rfl,
        hback, hrest⟩
    · rintro ⟨front, _, rfl, hfront, back, run, rest, rfl, hback, hrest⟩
      exact ⟨front ++ back, run, rest, (List.append_assoc _ _ _).symm,
        ⟨front, back, rfl, hfront, hback⟩, hrest⟩

theorem segments_ne_nil (source : List Char) : segments source ≠ [] := List.splitOn_ne_nil '*' source

theorem segments_star (source : List Char) : segments ('*' :: source) = [] :: segments source := by
  simp [segments, List.splitOn_cons_eq_if_modifyHead]

theorem segments_append (hcore : '*' ∉ core) :
    segments (core ++ source) = (segments source).modifyHead (core ++ ·) := by
  induction core with
  | nil => exact (congrFun List.modifyHead_id _).symm
  | cons c core ih =>
    obtain ⟨hc, hcore⟩ := not_or.mp (mt List.mem_cons.mpr hcore)
    simp only [segments] at ih ⊢
    rw [List.cons_append, List.splitOn_cons_eq_if_modifyHead, ih hcore, List.modifyHead_modifyHead,
      if_neg (by simpa using Ne.symm hc)]
    rfl

theorem spells_segments_nil_iff : Spells (segments []) text ↔ text = [] :=
  spells_singleton_iff.trans Text.EqUpToCase.nil_left_iff

theorem spells_segments_star_iff :
    Spells (segments ('*' :: source)) text ↔
      ∃ run rest, text = run ++ rest ∧ Spells (segments source) rest := by
  rw [segments_star, spells_cons_iff (segments_ne_nil source)]
  simp only [Text.EqUpToCase.nil_left_iff]
  constructor
  · rintro ⟨_, run, rest, htext, rfl, hrest⟩
    exact ⟨run, rest, htext, hrest⟩
  · rintro ⟨run, rest, htext, hrest⟩
    exact ⟨[], run, rest, htext, rfl, hrest⟩

theorem spells_segments_stars_iff (n : Nat) :
    Spells (segments (List.replicate n '*' ++ source)) text ↔
      ∃ run rest, text = run ++ rest ∧ (n = 0 → run = []) ∧ Spells (segments source) rest := by
  induction n generalizing text with
  | zero =>
    constructor
    · exact fun h => ⟨[], text, rfl, fun _ => rfl, h⟩
    · rintro ⟨run, rest, rfl, hrun, h⟩
      rwa [hrun rfl]
  | succ n ih =>
    rw [List.replicate_succ, List.cons_append, spells_segments_star_iff]
    simp only [ih]
    constructor
    · rintro ⟨run, _, rfl, more, rest, rfl, _, h⟩
      exact ⟨run ++ more, rest, (List.append_assoc _ _ _).symm, by simp, h⟩
    · rintro ⟨run, rest, rfl, _, h⟩
      exact ⟨run, rest, rfl, [], rest, rfl, fun _ => rfl, h⟩

theorem spells_segments_append_iff (hcore : '*' ∉ core) :
    Spells (segments (core ++ source)) text ↔
      ∃ piece rest, text = piece ++ rest ∧ EqUpToCase core piece ∧
        Spells (segments source) rest := by
  rw [segments_append hcore, spells_modifyHead_iff (segments_ne_nil source)]

/-- A part with stars at its ends only is spelled by the texts in which it stands up to case, at the
ends on the sides without stars. -/
theorem spells_segments_between_iff (m n : Nat) (hcore : '*' ∉ core) :
    Spells (segments (List.replicate m '*' ++ (core ++ List.replicate n '*'))) text ↔
      ∃ front piece back, text = front ++ (piece ++ back) ∧ EqUpToCase core piece ∧
        (m = 0 → front = []) ∧ (n = 0 → back = []) := by
  have hbehind (rest : List Char) :
      Spells (segments (List.replicate n '*')) rest ↔ (n = 0 → rest = []) := by
    rw [← List.append_nil (List.replicate n '*'), spells_segments_stars_iff]
    simp only [spells_segments_nil_iff]
    constructor
    · rintro ⟨run, _, rfl, hrun, rfl⟩
      simpa using hrun
    · exact fun h => ⟨rest, [], (List.append_nil rest).symm, h, rfl⟩
  simp only [spells_segments_stars_iff, spells_segments_append_iff hcore, hbehind]
  constructor
  · rintro ⟨front, _, rfl, hfront, piece, back, rfl, hpiece, hback⟩
    exact ⟨front, piece, back, rfl, hpiece, hfront, hback⟩
  · rintro ⟨front, piece, back, rfl, hpiece, hfront, hback⟩
    exact ⟨front, _, rfl, hfront, piece, back, rfl, hpiece, hback⟩

/-- A star is spelled by itself, as any other character is. -/
theorem spells_segments_self (source : List Char) : Spells (segments source) source := by
  induction source with
  | nil => exact spells_segments_nil_iff.mpr rfl
  | cons c source ih =>
    by_cases hstar : c = '*'
    · rw [hstar]
      exact spells_segments_star_iff.mpr ⟨['*'], source, rfl, ih⟩
    · have hfree : '*' ∉ [c] := by
        rw [List.mem_singleton]
        exact Ne.symm hstar
      rw [← List.singleton_append]
      exact (spells_segments_append_iff hfree).mpr ⟨[c], source, rfl, rfl, ih⟩

end Glob

end RecordQuery
