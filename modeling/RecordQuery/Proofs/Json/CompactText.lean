import RecordQuery.Json.Token
import RecordQuery.Proofs.Json.NumberText

/-!
# Values without blanks

The text of a value without blanks says where the value ends and which value it is: no two values
have the same text, and neither is the text of one the start of the text of another that is
followed by a comma or a closing bracket.
-/

namespace RecordQuery.Json

/-! ## Strings -/

section Strings

variable {rest : List Char}

theorem toDigits_control : ∀ n < 0x20,
    List.replicate (4 - (Nat.toDigits 16 n).length) '0' ++ Nat.toDigits 16 n =
      ['0', '0', Nat.digitChar (n / 16), Nat.digitChar (n % 16)] := by decide

theorem hexValue?_digitChar : ∀ n < 16, hexValue? (Nat.digitChar n) = some n := by decide

theorem readUnit?_control {n : Nat} (h : n < 0x20) (rest : List Char) :
    readUnit? ('0' :: '0' :: Nat.digitChar (n / 16) :: Nat.digitChar (n % 16) :: rest) =
      some (n, rest) := by
  have hzero : hexValue? '0' = some 0 := rfl
  have hjoin : ((0 * 16 + 0) * 16 + n / 16) * 16 + n % 16 = n := by omega
  simp only [readUnit?, hzero, hexValue?_digitChar (n / 16) (by omega),
    hexValue?_digitChar (n % 16) (by omega), hjoin, Option.bind_eq_bind, Option.bind_some]

theorem readEscape?_control {c : Char} (h : c.toNat < 0x20) (rest : List Char) :
    ∃ escape, controlEscape c = '\\' :: escape ∧ readEscape? (escape ++ rest) = some (c, rest) := by
  refine ⟨['u', '0', '0', Nat.digitChar (c.toNat / 16), Nat.digitChar (c.toNat % 16)], ?_, ?_⟩
  · rw [controlEscape, List.append_assoc, toDigits_control c.toNat h]
    rfl
  · have hunit := readUnit?_control h rest
    have hhigh : ¬(0xD800 ≤ c.toNat ∧ c.toNat ≤ 0xDBFF) := by omega
    have hlow : ¬(0xDC00 ≤ c.toNat ∧ c.toNat ≤ 0xDFFF) := by omega
    simp [readEscape?, readNumbered?, hunit, hhigh, hlow, Char.ofNat_toNat]

/-- An escaped character is read as that character. -/
theorem readString?_escapeChar (fuel : Nat) (before : List Char) (c : Char) (rest : List Char) :
    readString? (fuel + 1) before (escapeChar c ++ rest) = readString? fuel (c :: before) rest := by
  have hback : ∀ escape, readEscape? (escape ++ rest) = some (c, rest) →
      readString? (fuel + 1) before ('\\' :: (escape ++ rest)) =
        readString? fuel (c :: before) rest := by
    intro escape hescape
    rw [readString?, if_neg (by decide), if_pos rfl, hescape]
    rfl
  have hnumber : ∀ n, c.toNat = n → c = Char.ofNat n := by
    rintro n rfl
    exact (Char.ofNat_toNat c).symm
  unfold escapeChar
  split
  · rename_i h
    rcases h with rfl | rfl <;> exact hback [_] rfl
  split
  · rename_i h
    rw [hnumber 8 h] at hback ⊢
    exact hback ['b'] rfl
  split
  · rename_i h
    rw [hnumber 12 h] at hback ⊢
    exact hback ['f'] rfl
  split
  · rename_i h
    subst h
    exact hback ['n'] rfl
  split
  · rename_i h
    subst h
    exact hback ['r'] rfl
  split
  · rename_i h
    subst h
    exact hback ['t'] rfl
  split
  · rename_i h
    obtain ⟨escape, hescape, hread⟩ := readEscape?_control h rest
    rw [hescape, List.cons_append]
    exact hback escape hread
  · rename_i hplain _ _ _ _ _ hcontrol
    obtain ⟨hquote, hslash⟩ := not_or.mp hplain
    rw [List.singleton_append, readString?, if_neg hquote, if_neg hslash, if_neg hcontrol]

theorem readString?_escaped {fuel : Nat} {cs : List Char} (hfuel : cs.length < fuel)
    (before rest : List Char) :
    readString? fuel before (cs.flatMap escapeChar ++ '"' :: rest) =
      some (String.ofList (before.reverse ++ cs), rest) := by
  induction cs generalizing fuel before with
  | nil =>
    obtain ⟨fuel, rfl⟩ := Nat.exists_eq_succ_of_ne_zero (Nat.ne_of_gt hfuel)
    rw [List.flatMap_nil, List.nil_append, readString?, if_pos rfl, List.append_nil]
  | cons c cs ih =>
    obtain ⟨fuel, rfl⟩ := Nat.exists_eq_succ_of_ne_zero (Nat.ne_of_gt (Nat.zero_lt_of_lt hfuel))
    rw [List.length_cons] at hfuel
    rw [List.flatMap_cons, List.append_assoc, readString?_escapeChar, ih (by omega),
      List.reverse_cons, List.append_assoc, List.singleton_append]

theorem toList_stringText (s : String) (rest : List Char) :
    (stringText s).toList ++ rest = '"' :: (s.toList.flatMap escapeChar ++ '"' :: rest) := by
  rw [stringText, String.toList_ofList, List.cons_append, List.cons_append, List.append_assoc,
    List.singleton_append]

/-- The text of a string says where it ends and which string it is. -/
theorem stringText_delimits {s t : String} {rest rest' : List Char}
    (h : (stringText s).toList ++ rest = (stringText t).toList ++ rest') : s = t ∧ rest = rest' := by
  rw [toList_stringText, toList_stringText] at h
  have hfuel : s.toList.length < s.toList.length + t.toList.length + 1 := by omega
  have hfuel' : t.toList.length < s.toList.length + t.toList.length + 1 := by omega
  have hs := readString?_escaped hfuel [] rest
  rw [(List.cons.inj h).2, readString?_escaped hfuel'] at hs
  obtain ⟨htext, hrest⟩ := Prod.mk.inj (Option.some.inj hs)
  rw [List.reverse_nil, List.nil_append, List.nil_append, String.ofList_toList,
    String.ofList_toList] at htext
  exact ⟨htext.symm, hrest.symm⟩

end Strings

/-! ## Kinds -/

/-- The kind of the values whose text starts with a character. -/
def kindOfFirst (c : Char) : String :=
  if c = 'n' then "null"
  else if c = 't' ∨ c = 'f' then "bool"
  else if c = '-' ∨ c.isDigit then "number"
  else if c = '"' then "str"
  else if c = '[' then "list"
  else if c = '\x7b' then "dict"
  else ""

theorem kindOfFirst_of_isDigit {c : Char} (h : c.isDigit = true) : kindOfFirst c = "number" := by
  have hbounds := Digits.toNat_of_isDigit h
  have hne : ∀ d : Char, 0x39 < d.toNat → c ≠ d := by
    rintro d hd rfl
    omega
  simp [kindOfFirst, h, hne 'n' (by decide), hne 't' (by decide), hne 'f' (by decide)]

theorem exists_first_number (n : JsonNumber) :
    ∃ c more, n.text.toList = c :: more ∧ kindOfFirst c = "number" := by
  obtain ⟨literal, hproper, _, htext⟩ := n.exists_literal
  rw [htext, JsonNumber.Literal.chars]
  split
  · exact ⟨'-', _, rfl, by decide⟩
  · obtain ⟨first, more, hwhole⟩ := List.exists_cons_of_ne_nil hproper.whole_ne_nil
    rw [JsonNumber.Literal.unsignedChars, hwhole]
    exact ⟨first, _, rfl, kindOfFirst_of_isDigit (hproper.whole first (hwhole ▸ List.mem_cons_self))⟩

theorem toList_compact_string (s : String) :
    (string s).compact.toList = '"' :: (s.toList.flatMap escapeChar ++ ['"']) := by
  rw [compact, stringText, String.toList_ofList, List.cons_append]

theorem toList_compact_list (values : List Json) :
    (array values).compact.toList =
      '[' :: ((String.intercalate "," (compactList values)).toList ++ [']']) := by
  have hfirst : "[".toList = ['['] := rfl
  have hlast : "]".toList = [']'] := rfl
  rw [compact, String.toList_append, String.toList_append, hfirst, hlast, List.append_assoc,
    List.singleton_append]

theorem toList_compact_entries (entries : List (String × Json)) :
    (object entries).compact.toList =
      '\x7b' :: ((String.intercalate "," (compactEntries entries)).toList ++ ['\x7d']) := by
  have hfirst : "\x7b".toList = ['\x7b'] := rfl
  have hlast : "\x7d".toList = ['\x7d'] := rfl
  rw [compact, String.toList_append, String.toList_append, hfirst, hlast, List.append_assoc,
    List.singleton_append]

/-- The first character of a text shows the kind of the value. -/
theorem exists_first_compact (v : Json) :
    ∃ c more, v.compact.toList = c :: more ∧ kindOfFirst c = v.kindName := by
  cases v with
  | null => exact ⟨'n', _, rfl, by decide⟩
  | bool b => cases b <;> exact ⟨_, _, rfl, by decide⟩
  | number n => exact exists_first_number n
  | string s => exact ⟨_, _, toList_compact_string s, rfl⟩
  | array values => exact ⟨_, _, toList_compact_list values, rfl⟩
  | object entries => exact ⟨_, _, toList_compact_entries entries, rfl⟩

theorem kindName_ne_empty (v : Json) : v.kindName ≠ "" := by
  cases v <;> simp [kindName]

theorem kindName_eq_of_compact {v w : Json} {rest rest' : List Char}
    (h : v.compact.toList ++ rest = w.compact.toList ++ rest') : v.kindName = w.kindName := by
  obtain ⟨c, more, hv, hc⟩ := v.exists_first_compact
  obtain ⟨d, more', hw, hd⟩ := w.exists_first_compact
  rw [hv, hw, List.cons_append, List.cons_append] at h
  rw [← hc, ← hd, (List.cons.inj h).1]

/-- No value starts with a closing bracket. -/
theorem compact_ne_closing {v : Json} {c : Char} (hc : kindOfFirst c = "") {rest rest' : List Char} :
    v.compact.toList ++ rest ≠ c :: rest' := by
  intro h
  obtain ⟨d, more, hv, hd⟩ := v.exists_first_compact
  rw [hv, List.cons_append] at h
  rw [(List.cons.inj h).1, hc] at hd
  exact v.kindName_ne_empty hd.symm

/-! ## Containers -/

/-- What stands behind a value of an array: the other values and the closing bracket. -/
def behindValue (rest : List Char) : List Json → List Char
  | [] => ']' :: rest
  | value :: values => ',' :: (value.compact.toList ++ behindValue rest values)

/-- What stands behind a value of an object: the other entries and the closing brace. -/
def behindEntry (rest : List Char) : List (String × Json) → List Char
  | [] => '\x7d' :: rest
  | (key, value) :: entries =>
    ',' :: ((stringText key).toList ++ ':' :: (value.compact.toList ++ behindEntry rest entries))

theorem ends_behindValue (rest : List Char) (values : List Json) :
    JsonNumber.Ends (behindValue rest values) := by
  intro c hc
  cases values with
  | nil => exact Or.inr (Or.inl (Option.some.inj hc).symm)
  | cons value values => exact Or.inl (Option.some.inj hc).symm

theorem ends_behindEntry (rest : List Char) (entries : List (String × Json)) :
    JsonNumber.Ends (behindEntry rest entries) := by
  intro c hc
  cases entries with
  | nil => exact Or.inr (Or.inr (Option.some.inj hc).symm)
  | cons entry entries => exact Or.inl (Option.some.inj hc).symm

theorem toList_compact_array_nil (rest : List Char) :
    (array []).compact.toList ++ rest = '[' :: ']' :: rest := rfl

theorem toList_compact_object_nil (rest : List Char) :
    (object []).compact.toList ++ rest = '\x7b' :: '\x7d' :: rest := rfl

theorem toList_compactList (value : Json) (values : List Json) (rest : List Char) :
    (String.intercalate "," (compactList (value :: values))).toList ++ ']' :: rest =
      value.compact.toList ++ behindValue rest values := by
  induction values generalizing value with
  | nil => simp [compactList, behindValue]
  | cons next values ih =>
    have hcomma : ",".toList = [','] := rfl
    rw [compactList, compactList, String.intercalate_cons_cons, ← compactList,
      String.toList_append, String.toList_append, hcomma, List.append_assoc, List.append_assoc, ih,
      behindValue, List.singleton_append]

theorem toList_compactEntries (key : String) (value : Json) (entries : List (String × Json))
    (rest : List Char) :
    (String.intercalate "," (compactEntries ((key, value) :: entries))).toList ++ '\x7d' :: rest =
      (stringText key).toList ++ ':' :: (value.compact.toList ++ behindEntry rest entries) := by
  induction entries generalizing key value with
  | nil => simp [compactEntries, behindEntry]
  | cons next entries ih =>
    obtain ⟨k, v⟩ := next
    have hcomma : ",".toList = [','] := rfl
    have hcolon : ":".toList = [':'] := rfl
    rw [compactEntries, compactEntries, String.intercalate_cons_cons, ← compactEntries,
      String.toList_append, String.toList_append, String.toList_append, String.toList_append,
      hcomma, hcolon, List.append_assoc, List.append_assoc, List.append_assoc, List.append_assoc,
      ih, behindEntry]
    simp only [List.singleton_append]

theorem toList_compact_array (value : Json) (values : List Json) (rest : List Char) :
    (array (value :: values)).compact.toList ++ rest =
      '[' :: (value.compact.toList ++ behindValue rest values) := by
  rw [← toList_compactList, toList_compact_list, List.cons_append, List.append_assoc,
    List.singleton_append]

theorem toList_compact_object (key : String) (value : Json) (entries : List (String × Json))
    (rest : List Char) :
    (object ((key, value) :: entries)).compact.toList ++ rest =
      '\x7b' :: ((stringText key).toList ++
        ':' :: (value.compact.toList ++ behindEntry rest entries)) := by
  rw [← toList_compactEntries, toList_compact_entries, List.cons_append, List.append_assoc,
    List.singleton_append]

/-! ## All values -/

/-- The text of the value says where it ends and which value it is. -/
def Delimited (v : Json) : Prop :=
  ∀ {w : Json} {rest rest' : List Char}, JsonNumber.Ends rest → JsonNumber.Ends rest' →
    v.compact.toList ++ rest = w.compact.toList ++ rest' → v = w ∧ rest = rest'

section Cases

theorem delimited_null : Delimited null := by
  intro w rest rest' _ _ h
  have hkind := kindName_eq_of_compact h
  cases w with
  | null => exact ⟨rfl, List.append_cancel_left h⟩
  | _ => exact absurd hkind (by simp [kindName])

theorem delimited_bool (a : Bool) : Delimited (bool a) := by
  intro w rest rest' _ _ h
  have hkind := kindName_eq_of_compact h
  cases w with
  | bool b =>
    cases a <;> cases b
    · exact ⟨rfl, List.append_cancel_left h⟩
    · exact absurd (List.cons.inj h).1 (by decide)
    · exact absurd (List.cons.inj h).1 (by decide)
    · exact ⟨rfl, List.append_cancel_left h⟩
  | _ => exact absurd hkind (by simp [kindName])

theorem delimited_number (m : JsonNumber) : Delimited (number m) := by
  intro w rest rest' hrest hrest' h
  have hkind := kindName_eq_of_compact h
  cases w with
  | number n =>
    obtain ⟨rfl, rfl⟩ := JsonNumber.text_delimits hrest hrest' h
    exact ⟨rfl, rfl⟩
  | _ => exact absurd hkind (by simp [kindName])

theorem delimited_string (s : String) : Delimited (string s) := by
  intro w rest rest' _ _ h
  have hkind := kindName_eq_of_compact h
  cases w with
  | string t =>
    obtain ⟨rfl, rfl⟩ := stringText_delimits h
    exact ⟨rfl, rfl⟩
  | _ => exact absurd hkind (by simp [kindName])

variable {rest rest' : List Char}

theorem behindValue_delimits {xs ys : List Json} (hxs : ∀ x ∈ xs, Delimited x)
    (h : behindValue rest xs = behindValue rest' ys) : xs = ys ∧ rest = rest' := by
  induction xs generalizing ys with
  | nil =>
    cases ys with
    | nil => exact ⟨rfl, (List.cons.inj h).2⟩
    | cons y ys => exact absurd (List.cons.inj h).1 (by decide)
  | cons x xs ih =>
    obtain ⟨hx, hxs⟩ := List.forall_mem_cons.mp hxs
    cases ys with
    | nil => exact absurd (List.cons.inj h).1 (by decide)
    | cons y ys =>
      obtain ⟨rfl, hbehind⟩ := hx (ends_behindValue rest xs) (ends_behindValue rest' ys)
        (List.cons.inj h).2
      obtain ⟨rfl, rfl⟩ := ih hxs hbehind
      exact ⟨rfl, rfl⟩

theorem behindEntry_delimits {xs ys : List (String × Json)} (hxs : ∀ x ∈ xs, Delimited x.2)
    (h : behindEntry rest xs = behindEntry rest' ys) : xs = ys ∧ rest = rest' := by
  induction xs generalizing ys with
  | nil =>
    cases ys with
    | nil => exact ⟨rfl, (List.cons.inj h).2⟩
    | cons y ys => exact absurd (List.cons.inj h).1 (by decide)
  | cons x xs ih =>
    obtain ⟨hx, hmore⟩ := List.forall_mem_cons.mp hxs
    obtain ⟨k, x⟩ := x
    cases ys with
    | nil => exact absurd (List.cons.inj h).1 (by decide)
    | cons y ys =>
      obtain ⟨l, y⟩ := y
      obtain ⟨rfl, hvalue⟩ := stringText_delimits (List.cons.inj h).2
      obtain ⟨rfl, hbehind⟩ := hx (ends_behindEntry rest xs) (ends_behindEntry rest' ys)
        (List.cons.inj hvalue).2
      obtain ⟨rfl, rfl⟩ := ih hmore hbehind
      exact ⟨rfl, rfl⟩

theorem delimited_array {xs : List Json} (hxs : ∀ x ∈ xs, Delimited x) : Delimited (array xs) := by
  intro w rest rest' _ _ h
  have hkind := kindName_eq_of_compact h
  cases w with
  | array ys =>
    cases xs with
    | nil =>
      cases ys with
      | nil => exact ⟨rfl, List.append_cancel_left h⟩
      | cons y ys =>
        rw [toList_compact_array_nil, toList_compact_array] at h
        exact absurd (List.cons.inj h).2.symm (compact_ne_closing rfl)
    | cons x xs =>
      obtain ⟨hx, hxs⟩ := List.forall_mem_cons.mp hxs
      cases ys with
      | nil =>
        rw [toList_compact_array_nil, toList_compact_array] at h
        exact absurd (List.cons.inj h).2 (compact_ne_closing rfl)
      | cons y ys =>
        rw [toList_compact_array, toList_compact_array] at h
        obtain ⟨rfl, hbehind⟩ := hx (ends_behindValue rest xs) (ends_behindValue rest' ys)
          (List.cons.inj h).2
        obtain ⟨rfl, rfl⟩ := behindValue_delimits hxs hbehind
        exact ⟨rfl, rfl⟩
  | _ => exact absurd hkind (by simp [kindName])

theorem delimited_object {xs : List (String × Json)} (hxs : ∀ x ∈ xs, Delimited x.2) :
    Delimited (object xs) := by
  intro w rest rest' _ _ h
  have hkind := kindName_eq_of_compact h
  cases w with
  | object ys =>
    cases xs with
    | nil =>
      cases ys with
      | nil => exact ⟨rfl, List.append_cancel_left h⟩
      | cons y ys =>
        rw [toList_compact_object_nil, toList_compact_object, toList_stringText] at h
        exact absurd (List.cons.inj (List.cons.inj h).2).1 (by decide)
    | cons x xs =>
      obtain ⟨hx, hmore⟩ := List.forall_mem_cons.mp hxs
      obtain ⟨k, x⟩ := x
      cases ys with
      | nil =>
        rw [toList_compact_object_nil, toList_compact_object, toList_stringText] at h
        exact absurd (List.cons.inj (List.cons.inj h).2).1 (by decide)
      | cons y ys =>
        obtain ⟨l, y⟩ := y
        rw [toList_compact_object, toList_compact_object] at h
        obtain ⟨rfl, hvalue⟩ := stringText_delimits (List.cons.inj h).2
        obtain ⟨rfl, hbehind⟩ := hx (ends_behindEntry rest xs) (ends_behindEntry rest' ys)
          (List.cons.inj hvalue).2
        obtain ⟨rfl, rfl⟩ := behindEntry_delimits hmore hbehind
        exact ⟨rfl, rfl⟩
  | _ => exact absurd hkind (by simp [kindName])

end Cases

mutual

theorem delimited : (v : Json) → Delimited v
  | null => delimited_null
  | bool a => delimited_bool a
  | number m => delimited_number m
  | string s => delimited_string s
  | array xs => delimited_array (delimited_values xs)
  | object xs => delimited_object (delimited_entries xs)

theorem delimited_values : (xs : List Json) → ∀ x ∈ xs, Delimited x
  | [] => List.forall_mem_nil _
  | x :: xs => List.forall_mem_cons.mpr ⟨delimited x, delimited_values xs⟩

theorem delimited_entries : (xs : List (String × Json)) → ∀ x ∈ xs, Delimited x.2
  | [] => List.forall_mem_nil _
  | (_, x) :: xs => List.forall_mem_cons.mpr ⟨delimited x, delimited_entries xs⟩

end

/-- No two values have the same text. -/
theorem compact_injective : Function.Injective compact := by
  intro v w h
  exact (v.delimited JsonNumber.ends_nil JsonNumber.ends_nil (by rw [h])).1

end RecordQuery.Json
