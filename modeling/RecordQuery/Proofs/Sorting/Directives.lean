import RecordQuery.Proofs.FieldPath
import RecordQuery.Proofs.Text.Blank
import RecordQuery.Sorting

/-!
# Directives in parts

The keys of two directives joined by a comma are the keys of the first and behind them those of the
second. A key is written as a part that is read as this key again, whatever blanks the part that it
came from had, so the keys of a directive in written form ask for the same ordering.
-/

namespace RecordQuery.SortKey

/-- What a directive is cut into: texts without a comma and without blanks at their ends. -/
structure IsToken (token : List Char) : Prop where
  ne_nil : token ≠ []
  comma : ',' ∉ token
  trimmed : Text.IsTrimmed token

variable {token rest : List Char} {schemas : Schemas} {schema : Schema} {key : SortKey}
  {keys : List SortKey} {line : String}

/-! ## Parts -/

theorem not_mem_of_mem_splitOn {sep : Char} {cs piece : List Char}
    (h : piece ∈ cs.splitOn sep) : sep ∉ piece := by
  induction cs generalizing piece with
  | nil =>
    rw [List.splitOn_nil, List.mem_singleton] at h
    exact h ▸ List.not_mem_nil
  | cons c cs ih =>
    obtain ⟨first, more, hcs⟩ := List.exists_cons_of_ne_nil (List.splitOn_ne_nil sep cs)
    rw [hcs] at ih
    rw [List.splitOn_cons_eq_if_modifyHead, hcs] at h
    split at h
    · rcases List.mem_cons.mp h with rfl | h
      · exact List.not_mem_nil
      · exact ih h
    · rename_i hc
      rcases List.mem_cons.mp h with rfl | h
      · intro hmem
        rcases List.mem_cons.mp hmem with rfl | hmem
        · exact hc (beq_self_eq_true sep)
        · exact ih List.mem_cons_self hmem
      · exact ih (List.mem_cons_of_mem first h)

theorem tokens_append (a b : String) : tokens (a ++ "," ++ b) = tokens a ++ tokens b := by
  have hcut : (a ++ "," ++ b).toList = a.toList ++ ',' :: b.toList := by
    rw [String.toList_append, String.toList_append, List.append_assoc]
    rfl
  rw [tokens, hcut, List.splitOn_append_cons_self, List.map_append, List.filter_append]
  rfl

theorem isToken_of_mem_tokens (h : token ∈ tokens line) : IsToken token := by
  obtain ⟨hmem, hfull⟩ := List.mem_filter.mp h
  obtain ⟨piece, hpiece, rfl⟩ := List.mem_map.mp hmem
  refine ⟨by simpa using hfull, ?_, Text.isTrimmed_trimChars piece⟩
  intro hcomma
  exact not_mem_of_mem_splitOn hpiece (Text.mem_of_mem_trimChars hcomma)

theorem IsToken.tokens_eq (h : IsToken line.toList) : tokens line = [line.toList] := by
  rw [tokens, List.splitOn_eq_singleton h.comma, List.map_singleton,
    Text.trimChars_of_isTrimmed h.trimmed]
  exact List.filter_eq_self.mpr (by simpa using h.ne_nil)

/-! ## Keys in written form -/

/-- The written form of a key differs from the part that it came from in blanks behind the hyphen
alone. -/
theorem toList_directive (token : List Char) :
    (∃ rest, token = '-' :: rest ∧
      (ofToken token).directive.toList = '-' :: Text.trimChars rest) ∨
    (ofToken token).directive.toList = token := by
  fun_cases ofToken token with
  | case1 rest =>
    refine Or.inl ⟨rest, rfl, ?_⟩
    rw [directive, FieldPath.text_parse, String.toList_append, String.toList_ofList,
      String.toList_ofList]
    rfl
  | case2 token h =>
    apply Or.inr
    rw [directive, FieldPath.text_parse, String.toList_ofList]

theorem ofToken_directive (token : List Char) :
    ofToken (ofToken token).directive.toList = ofToken token := by
  rcases toList_directive token with ⟨rest, rfl, hwritten⟩ | hwritten
  · rw [hwritten, ofToken, ofToken, Text.trimChars_trimChars]
  · rw [hwritten]

theorem isTrimmed_hyphen (h : Text.IsTrimmed rest) : Text.IsTrimmed ('-' :: rest) := by
  have hhyphen : Text.IsTrimmed ['-'] := by
    apply Text.isTrimmed_of_forall
    intro c hc
    rw [List.mem_singleton.mp hc]
    rfl
  by_cases hrest : rest = []
  · rw [hrest]
    exact hhyphen
  · exact Text.isTrimmed_of_ends [] hhyphen h (List.cons_ne_nil _ _) hrest

theorem IsToken.written (h : IsToken token) : IsToken (ofToken token).directive.toList := by
  rcases toList_directive token with ⟨rest, rfl, hwritten⟩ | hwritten
  · rw [hwritten]
    refine ⟨List.cons_ne_nil _ _, ?_, isTrimmed_hyphen (Text.isTrimmed_trimChars rest)⟩
    intro hcomma
    rcases List.mem_cons.mp hcomma with hhyphen | hcomma
    · exact absurd hhyphen (by decide)
    · exact h.comma (List.mem_cons_of_mem _ (Text.mem_of_mem_trimChars hcomma))
  · rw [hwritten]
    exact h

/-! ## Directives -/

theorem resolve_append (schemas : Schemas) (schema : Schema) (a b : String) :
    resolve schemas schema (a ++ "," ++ b) =
      resolve schemas schema a ++ resolve schemas schema b := by
  rw [resolve, tokens_append, List.filterMap_append]
  rfl

theorem resolve_empty (schemas : Schemas) (schema : Schema) : resolve schemas schema "" = [] := rfl

theorem mem_resolve_iff : key ∈ resolve schemas schema line ↔
    ∃ token ∈ tokens line, ofToken token = key ∧
      ∃ type, key.path.resolve schemas schema = .ok type := by
  simp only [resolve, List.mem_filterMap]
  refine exists_congr fun token => and_congr_right fun _ => ?_
  split
  · rename_i type hok
    constructor
    · intro h
      obtain rfl := Option.some.inj h
      exact ⟨rfl, type, hok⟩
    · rintro ⟨rfl, _⟩
      rfl
  · rename_i reason herror
    constructor
    · intro h
      exact absurd h (by simp)
    · rintro ⟨rfl, type, hok⟩
      rw [herror] at hok
      exact absurd hok (by simp)

theorem resolve_directive (h : key ∈ resolve schemas schema line) :
    resolve schemas schema key.directive = [key] := by
  obtain ⟨token, htoken, rfl, type, hok⟩ := mem_resolve_iff.mp h
  have hwritten := (isToken_of_mem_tokens htoken).written
  rw [resolve, hwritten.tokens_eq]
  simp only [List.filterMap_cons, List.filterMap_nil, ofToken_directive, hok]

theorem resolve_intercalate
    (h : ∀ key ∈ keys, resolve schemas schema key.directive = [key]) :
    resolve schemas schema (String.intercalate "," (keys.map SortKey.directive)) = keys := by
  induction keys with
  | nil => exact resolve_empty schemas schema
  | cons key keys ih =>
    obtain ⟨hkey, hkeys⟩ := List.forall_mem_cons.mp h
    cases keys with
    | nil =>
      rw [List.map_singleton, String.intercalate_singleton]
      exact hkey
    | cons second others =>
      rw [List.map_cons, List.map_cons, String.intercalate_cons_cons, resolve_append, hkey,
        ← List.map_cons, ih hkeys]
      rfl

/-- The keys of two directives joined by a comma are those of the one and then those of the other,
so a part without a key leaves its neighbours alone. The keys of a directive, written and joined by
commas, are read as the same keys in the same order. -/
theorem directives_join_and_are_read_back (schemas : Schemas) (schema : Schema) :
    (∀ a b, resolve schemas schema (a ++ "," ++ b) =
      resolve schemas schema a ++ resolve schemas schema b) ∧
    (∀ a part b, resolve schemas schema part = [] →
      resolve schemas schema (a ++ "," ++ part ++ "," ++ b) =
        resolve schemas schema a ++ resolve schemas schema b) ∧
    ∀ line, let keys := resolve schemas schema line
      resolve schemas schema (String.intercalate "," (keys.map SortKey.directive)) = keys := by
  refine ⟨resolve_append schemas schema, ?_, ?_⟩
  · intro a part b hpart
    rw [resolve_append, resolve_append, hpart, List.append_nil]
  · intro line keys
    apply resolve_intercalate
    intro key hkey
    exact resolve_directive hkey

/-- Names with a blank inside, with a hyphen or an underscore in front, and a relation in a
circle. -/
theorem directives_join_of_hard_names :
    let row : Schema := ⟨"Row",
      [⟨"a b", .text⟩, ⟨"-x", .integer⟩, ⟨"_n", .text⟩, ⟨"up", .relation "Row"⟩]⟩
    let schemas : Schemas := .ofList [row]
    let keys := resolve schemas row "- up__up___n,"
    resolve schemas row "x" = [] ∧
      resolve schemas row (" a b ,--x" ++ "," ++ "x" ++ "," ++ "- up__up___n,") =
        resolve schemas row " a b ,--x" ++ keys ∧
      resolve schemas row (String.intercalate "," (keys.map SortKey.directive)) = keys ∧
      keys = [⟨⟨["up", "up", "_n"]⟩, .descending⟩] := by
  intro row schemas keys
  have hpart : resolve schemas row "x" = [] := by decide
  obtain ⟨_, hbetween, hread⟩ := directives_join_and_are_read_back schemas row
  exact ⟨hpart, hbetween _ _ _ hpart, hread "- up__up___n,", by decide⟩

end RecordQuery.SortKey
