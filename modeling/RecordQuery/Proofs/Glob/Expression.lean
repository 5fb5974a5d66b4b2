import RecordQuery.Proofs.Glob.Decomposition

/-!
# The regular expression of a pattern

What the regular expression of a pattern matches, read off its characters, and what the pattern
matches are the cuts of a text at the stars. Signs of regular expressions in a pattern are escaped
and match themselves.
-/

namespace RecordQuery.Glob

open Text (EqUpToCase)

/-- What a regular expression between its anchors matches, without regard to case: a character that
is no sign and a sign behind a backslash match themselves, a dot with a star matches any run, line
breaks included. -/
inductive Accepts : (expression text : List Char) → Prop where
  | done : Accepts [] []
  | char {c d : Char} {expression text : List Char} : isSign c = false →
      Text.sameUpToCase c d = true → Accepts expression text → Accepts (c :: expression) (d :: text)
  | escaped {c d : Char} {expression text : List Char} : isSign c = true →
      Text.sameUpToCase c d = true → Accepts expression text →
      Accepts ('\\' :: c :: expression) (d :: text)
  | run {expression text : List Char} (run : List Char) : Accepts expression text →
      Accepts ('.' :: '*' :: expression) (run ++ text)

/-- The regular expression matches the whole text, from its first anchor to its last. -/
def AcceptsWhole (expression text : List Char) : Prop :=
  ∃ body, expression = '^' :: body ++ ['$'] ∧ Accepts body text

variable {c : Char} {literal expression text : List Char} {literals : List (List Char)}

theorem accepts_nil_iff : Accepts [] text ↔ text = [] := by
  constructor
  · intro h
    cases h with
    | done => rfl
  · rintro rfl
    exact Accepts.done

theorem accepts_escapeChar_iff :
    Accepts (escapeChar c ++ expression) text ↔
      ∃ d rest, text = d :: rest ∧ Text.sameUpToCase c d = true ∧ Accepts expression rest := by
  cases hsign : isSign c with
  | true =>
    simp only [escapeChar, hsign, ↓reduceIte, List.cons_append, List.nil_append]
    constructor
    · intro h
      cases h with
      | char hplain _ _ => exact absurd hplain (by decide)
      | escaped _ hsame hrest => exact ⟨_, _, rfl, hsame, hrest⟩
    · rintro ⟨d, rest, rfl, hsame, hrest⟩
      exact Accepts.escaped hsign hsame hrest
  | false =>
    simp only [escapeChar, hsign, Bool.false_eq_true, ↓reduceIte, List.cons_append, List.nil_append]
    constructor
    · intro h
      cases h with
      | char _ hsame hrest => exact ⟨_, _, rfl, hsame, hrest⟩
      | escaped _ _ _ => exact absurd hsign (by decide)
      | run _ _ => exact absurd hsign (by decide)
    · rintro ⟨d, rest, rfl, hsame, hrest⟩
      exact Accepts.char hsign hsame hrest

theorem accepts_literal_iff :
    Accepts (literal.flatMap escapeChar ++ expression) text ↔
      ∃ piece rest, text = piece ++ rest ∧ EqUpToCase literal piece ∧ Accepts expression rest := by
  induction literal generalizing text with
  | nil =>
    simp only [List.flatMap_nil, List.nil_append, Text.EqUpToCase.nil_left_iff]
    constructor
    · exact fun haccepts => ⟨[], text, rfl, rfl, haccepts⟩
    · rintro ⟨_, rest, rfl, rfl, haccepts⟩
      exact haccepts
  | cons c literal ih =>
    rw [List.flatMap_cons, List.append_assoc, accepts_escapeChar_iff]
    simp only [ih, Text.EqUpToCase.cons_left_iff]
    constructor
    · rintro ⟨d, _, rfl, hsame, piece, rest, rfl, hpiece, hrest⟩
      exact ⟨d :: piece, rest, rfl, ⟨d, piece, rfl, by simpa [Text.sameUpToCase] using hsame,
        hpiece⟩, hrest⟩
    · rintro ⟨_, rest, rfl, ⟨d, piece, rfl, hfold, hpiece⟩, hrest⟩
      exact ⟨d, piece ++ rest, rfl, by simpa [Text.sameUpToCase] using hfold, piece, rest, rfl,
        hpiece, hrest⟩

theorem accepts_run_iff :
    Accepts ('.' :: '*' :: expression) text ↔
      ∃ run rest, text = run ++ rest ∧ Accepts expression rest := by
  constructor
  · intro h
    cases h with
    | char hplain _ _ => exact absurd hplain (by decide)
    | run run hrest => exact ⟨run, _, rfl, hrest⟩
  · rintro ⟨run, rest, rfl, hrest⟩
    exact Accepts.run run hrest

theorem accepts_intercalate_iff (hne : literals ≠ []) :
    Accepts (List.intercalate ['.', '*'] (literals.map fun cs => cs.flatMap escapeChar)) text ↔
      Spells literals text := by
  induction literals generalizing text with
  | nil => exact absurd rfl hne
  | cons literal literals ih =>
    cases literals with
    | nil =>
      rw [List.map_singleton, List.intercalate_singleton, spells_singleton_iff,
        ← List.append_nil (literal.flatMap escapeChar), accepts_literal_iff]
      simp [accepts_nil_iff]
    | cons second others =>
      have hne : second :: others ≠ [] := List.cons_ne_nil second others
      rw [List.map_cons, List.map_cons, List.intercalate_cons_cons, ← List.map_cons,
        List.append_assoc, accepts_literal_iff, spells_cons_iff hne]
      simp only [List.cons_append, List.nil_append, accepts_run_iff, ih hne]
      constructor
      · rintro ⟨piece, _, rfl, hpiece, run, rest, rfl, hrest⟩
        exact ⟨piece, run, rest, rfl, hpiece, hrest⟩
      · rintro ⟨piece, run, rest, rfl, hpiece, hrest⟩
        exact ⟨piece, run ++ rest, rfl, hpiece, run, rest, rfl, hrest⟩

theorem acceptsWhole_regexChars_iff (hne : literals ≠ []) :
    AcceptsWhole (regexChars literals) text ↔ Spells literals text := by
  rw [← accepts_intercalate_iff hne]
  constructor
  · rintro ⟨body, hbody, haccepts⟩
    obtain ⟨_, hbody⟩ := List.cons.inj hbody
    obtain rfl := List.append_cancel_right hbody
    exact haccepts
  · exact fun haccepts => ⟨_, rfl, haccepts⟩

theorem compile_eq_ok_iff [RegexLibrary] {source : String} {glob : Glob} :
    compile source = .ok glob ↔
      RegexLibrary.refusal? glob.regex = none ∧ glob.source = source := by
  obtain ⟨own⟩ := glob
  constructor
  · intro h
    unfold compile at h
    dsimp only at h
    split at h
    · exact absurd h (by simp)
    · rename_i hnone
      obtain rfl := congrArg Glob.source (Except.ok.inj h)
      exact ⟨hnone, rfl⟩
  · rintro ⟨hnone, rfl⟩
    simp only [compile, hnone]

theorem source_of_compile [RegexLibrary] {source : String} {glob : Glob}
    (h : compile source = .ok glob) : glob.source = source :=
  (compile_eq_ok_iff.mp h).2

theorem isMatch_iff_spells (glob : Glob) (text : String) :
    glob.isMatch text = true ↔ Spells (segments glob.source.toList) text.toList :=
  matchesSegments_iff

/-- A pattern matches the texts that are made up of its literals and of runs in the places of its
stars. These are the texts that its regular expression matches, and none of them is too short for
the literals to stand beside each other. -/
theorem isMatch_iff_cut [RegexLibrary] {source : String} {glob : Glob}
    (h : compile source = .ok glob) (text : String) :
    (glob.isMatch text = true ↔ Spells (source.toList.splitOn '*') text.toList) ∧
    (glob.isMatch text = true ↔ AcceptsWhole glob.regex.toList text.toList) ∧
    ∀ front back : String, source = front ++ "*" ++ back → '*' ∉ front.toList →
      '*' ∉ back.toList → glob.isMatch text = true → front.length + back.length ≤ text.length := by
  obtain rfl := source_of_compile h
  refine ⟨isMatch_iff_spells glob text, ?_, ?_⟩
  · rw [isMatch_iff_spells, regex, String.toList_ofList,
      acceptsWhole_regexChars_iff (segments_ne_nil _)]
  · intro front back hsource hfront hback hmatch
    have hspells := (isMatch_iff_spells glob text).mp hmatch
    have hsegments : segments glob.source.toList = [front.toList, back.toList] := by
      rw [hsource, String.toList_append, String.toList_append, List.append_assoc]
      exact (List.splitOn_append_cons_self_of_not_mem hfront back.toList).trans
        (congrArg _ (List.splitOn_eq_singleton hback))
    rw [hsegments] at hspells
    simpa [← String.length_toList] using hspells.length_le

/-- Signs of regular expressions on both sides of a star, which stands for a line break. -/
theorem isMatch_iff_cut_of_signs :
    letI : RegexLibrary := .permissive
    let glob : Glob := ⟨"a.b*b(C"⟩
    compile "a.b*b(C" = .ok glob ∧ glob.isMatch "A.B\nb(c" = true ∧
      Spells ("a.b*b(C".toList.splitOn '*') "A.B\nb(c".toList ∧
      AcceptsWhole "^a\\.b.*b\\(C$".toList "A.B\nb(c".toList ∧ glob.isMatch "a.b(c" = false := by
  intro glob
  let : RegexLibrary := .permissive
  have hglob : compile "a.b*b(C" = .ok glob := rfl
  have hmatch : glob.isMatch "A.B\nb(c" = true := by decide
  have hregex : glob.regex = "^a\\.b.*b\\(C$" := by decide
  obtain ⟨hspells, haccepts, _⟩ := isMatch_iff_cut hglob "A.B\nb(c"
  obtain ⟨_, _, hlength⟩ := isMatch_iff_cut hglob "a.b(c"
  refine ⟨hglob, hmatch, hspells.mp hmatch, hregex ▸ haccepts.mp hmatch, ?_⟩
  rw [Bool.eq_false_iff]
  intro hshort
  exact absurd (hlength "a.b" "b(C" (by decide) (by decide) (by decide) hshort) (by decide)

end RecordQuery.Glob
