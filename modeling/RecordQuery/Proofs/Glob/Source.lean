import RecordQuery.Condition
import RecordQuery.Proofs.Glob.Expression
import RecordQuery.Proofs.Json.CompactText

/-!
# The source behind a regular expression

The regular expression of a pattern is written character by character: a star as a dot with a star,
every other sign behind a backslash. It can be read back into the source, so no two patterns have
the same one.
-/

namespace RecordQuery.Glob

variable {c : Char} {cs rest : List Char}

def writeChar (c : Char) : List Char := if c = '*' then ['.', '*'] else escapeChar c

/-- The source of a regular expression without its anchors. -/
def readChars : List Char → List Char
  | '\\' :: c :: rest => c :: readChars rest
  | '.' :: '*' :: rest => '*' :: readChars rest
  | c :: rest => c :: readChars rest
  | [] => []

def readSource (regex : String) : String :=
  String.ofList (readChars (regex.toList.drop 1).dropLast)

/-! ## Writing -/

theorem intercalate_modifyHead (sep literal : List Char) {pieces : List (List Char)}
    (hne : pieces ≠ []) :
    List.intercalate sep (pieces.modifyHead (literal ++ ·)) =
      literal ++ List.intercalate sep pieces := by
  cases pieces with
  | nil => exact absurd rfl hne
  | cons first more =>
    cases more with
    | nil => simp
    | cons second more => simp [List.intercalate_cons_cons]

theorem intercalate_segments (source : List Char) :
    List.intercalate ['.', '*'] ((segments source).map fun cs => cs.flatMap escapeChar) =
      source.flatMap writeChar := by
  induction source with
  | nil => rfl
  | cons c source ih =>
    have hne : (segments source).map (fun cs => cs.flatMap escapeChar) ≠ [] :=
      mt List.map_eq_nil_iff.mp (segments_ne_nil source)
    rw [List.flatMap_cons, ← ih]
    by_cases hstar : c = '*'
    · rw [hstar, segments_star, List.map_cons, List.intercalate_cons_of_ne_nil hne]
      rfl
    · have hfree : '*' ∉ [c] := by
        rw [List.mem_singleton]
        exact Ne.symm hstar
      have hhead : (segments (c :: source)).map (fun cs => cs.flatMap escapeChar) =
          ((segments source).map fun cs => cs.flatMap escapeChar).modifyHead (escapeChar c ++ ·) := by
        rw [← List.singleton_append, segments_append hfree]
        cases segments source <;> simp
      rw [hhead, intercalate_modifyHead _ _ hne, writeChar, if_neg hstar]

theorem regexChars_segments (source : List Char) :
    regexChars (segments source) = '^' :: (source.flatMap writeChar ++ ['$']) := by
  rw [regexChars, intercalate_segments, List.cons_append]

/-! ## Reading -/

theorem readChars_cons (hslash : c ≠ '\\') (hdot : c ≠ '.') :
    readChars (c :: rest) = c :: readChars rest := by
  rw [readChars]
  · exact fun _ _ h _ => hslash h
  · exact fun _ h _ => hdot h

theorem readChars_writeChar (c : Char) (rest : List Char) :
    readChars (writeChar c ++ rest) = c :: readChars rest := by
  unfold writeChar
  split
  · rename_i hstar
    rw [hstar]
    rfl
  · cases hsign : isSign c with
    | true =>
      rw [escapeChar, if_pos hsign]
      rfl
    | false =>
      have hplain : ∀ d, isSign d = true → c ≠ d := by
        rintro d hd rfl
        exact absurd (hsign.symm.trans hd) (by decide)
      rw [escapeChar, if_neg (by simp [hsign])]
      exact readChars_cons (hplain '\\' (by decide)) (hplain '.' (by decide))

theorem readChars_flatMap (cs : List Char) : readChars (cs.flatMap writeChar) = cs := by
  induction cs with
  | nil => rfl
  | cons c cs ih => rw [List.flatMap_cons, readChars_writeChar, ih]

theorem readSource_regex (glob : Glob) : readSource glob.regex = glob.source := by
  rw [readSource, regex, String.toList_ofList, regexChars_segments, List.drop_one, List.tail_cons,
    List.dropLast_concat, readChars_flatMap, String.ofList_toList]

theorem regex_injective {g h : Glob} (hregex : g.regex = h.regex) : g.source = h.source := by
  rw [← readSource_regex g, hregex, readSource_regex]

/-- The regular expressions of two patterns are equal if and only if their sources are. So the
patterns are equal exactly when they are written alike in the data format, alone and in a
condition, and the source can be read back from the regular expression. -/
theorem regex_determines_source [RegexLibrary] {s t : String} {g h : Glob}
    (hg : compile s = .ok g) (hh : compile t = .ok h) :
    (g.regex = h.regex ↔ s = t) ∧
    ((Condition.wildcard g).same (.wildcard h) = true ↔
      (Condition.wildcard g).operandJson.compact = (Condition.wildcard h).operandJson.compact) ∧
    ((Condition.wildcard g).same (.wildcard h) = true ↔
      (Condition.wildcard g).toJson.compact = (Condition.wildcard h).toJson.compact) ∧
    readSource g.regex = s := by
  obtain rfl := source_of_compile hg
  obtain rfl := source_of_compile hh
  have hregex : g.regex = h.regex ↔ g.source = h.source := by
    refine ⟨regex_injective, fun hsource => ?_⟩
    rw [regex, regex, hsource]
  have hsame : (Condition.wildcard g).same (.wildcard h) = true ↔ g.regex = h.regex := by
    rw [hregex]
    exact beq_iff_eq
  refine ⟨hregex, ?_, ?_, readSource_regex g⟩
  · rw [hsame, Json.compact_injective.eq_iff]
    exact ⟨congrArg Json.string, Json.string.inj⟩
  · rw [hsame, Json.compact_injective.eq_iff]
    simp [Condition.toJson, Condition.operator, Condition.operandJson]

/-- A dot and a star of the source against two stars. -/
theorem regex_determines_source_of_dots :
    letI : RegexLibrary := .permissive
    let g : Glob := ⟨"a.*b"⟩
    let h : Glob := ⟨"a**b"⟩
    compile "a.*b" = .ok g ∧ compile "a**b" = .ok h ∧ g.regex = "^a\\..*b$" ∧
      h.regex = "^a.*.*b$" ∧ g.regex ≠ h.regex ∧
      (Condition.wildcard g).operandJson.compact ≠ (Condition.wildcard h).operandJson.compact ∧
      readSource "^a\\..*b$" = "a.*b" ∧ readSource "^a.*.*b$" = "a**b" := by
  intro g h
  let : RegexLibrary := .permissive
  have hg : compile "a.*b" = .ok g := rfl
  have hh : compile "a**b" = .ok h := rfl
  have hgregex : g.regex = "^a\\..*b$" := by decide
  have hhregex : h.regex = "^a.*.*b$" := by decide
  obtain ⟨hregex, hwritten, _, hgsource⟩ := regex_determines_source hg hh
  obtain ⟨_, _, _, hhsource⟩ := regex_determines_source hh hg
  refine ⟨hg, hh, hgregex, hhregex, ?_, ?_, hgregex ▸ hgsource, hhregex ▸ hhsource⟩
  · exact mt hregex.mp (by decide)
  · exact mt hwritten.mpr (by decide)

end RecordQuery.Glob
