import RecordQuery.Condition
import RecordQuery.Proofs.Numeric.NumberShape

/-!
# The forms of a condition on a number

A condition on a number is written as the number alone, as a number behind a comparison sign, or as
two numbers with a hyphen between them. No text is written in two of these ways, nor in one way with
different parts, and the reader finds the one that there is.
-/

namespace RecordQuery

/-- The comparisons that have a sign. -/
inductive Comparison where
  | atLeast
  | atMost
  | above
  | below
deriving DecidableEq

namespace Comparison

def sign : Comparison → String
  | atLeast => ">="
  | atMost => "<="
  | above => ">"
  | below => "<"

def operator : Comparison → Operator
  | atLeast => .atLeast
  | atMost => .atMost
  | above => .above
  | below => .below

def condition : Comparison → Number → Condition
  | atLeast => .atLeast
  | atMost => .atMost
  | above => .above
  | below => .below

theorem ofSign_operator (comparison : Comparison) (n : Number) :
    Condition.ofSign comparison.operator n = comparison.condition n := by
  cases comparison <;> rfl

theorem eq_cons_of_sign (comparison : Comparison) :
    ∃ c cs, comparison.sign.toList = c :: cs ∧ (c = '<' ∨ c = '>') := by
  cases comparison
  · exact ⟨_, _, rfl, Or.inr rfl⟩
  · exact ⟨_, _, rfl, Or.inl rfl⟩
  · exact ⟨_, _, rfl, Or.inr rfl⟩
  · exact ⟨_, _, rfl, Or.inl rfl⟩

theorem operator_injective : Function.Injective operator := by
  intro a b h
  cases a <;> cases b <;> first | rfl | exact absurd h (by decide)

theorem isTrimmed_sign (comparison : Comparison) : Text.IsTrimmed comparison.sign.toList := by
  have hfree : comparison.sign.toList.all (fun c => !Text.isBlank c) = true := by
    cases comparison <;> rfl
  exact Text.isTrimmed_of_forall (by simpa using hfree)

theorem sign_ne_nil (comparison : Comparison) : comparison.sign.toList ≠ [] := by
  obtain ⟨c, cs, hsign, _⟩ := comparison.eq_cons_of_sign
  simp [hsign]

end Comparison

/-- A condition on a number as it is written, with the texts of its numbers. -/
inductive NumberForm where
  | number (text : String)
  | compared (comparison : Comparison) (text : String)
  | range (low high : String)
deriving DecidableEq

namespace NumberForm

def text : NumberForm → String
  | number text => text
  | compared comparison text => comparison.sign ++ text
  | range low high => low ++ "-" ++ high

/-- The condition that the form stands for, if its texts are numbers of the type. -/
def read? (type : FieldType) : NumberForm → Option Condition
  | number text => (type.readNumber? text.toList).map fun n => .exact (.number n)
  | compared comparison text => (type.readNumber? text.toList).map comparison.condition
  | range low high =>
    (type.readNumber? low.toList).bind fun x =>
      (type.readNumber? high.toList).map fun y => .within x y

end NumberForm

/-! ## Signs -/

namespace FieldType

variable {type : FieldType} {cs : List Char} {n : Number}

/-- No number holds a part of a comparison sign. -/
theorem not_mem_of_readNumber? {c : Char} (hc : c = '<' ∨ c = '>' ∨ c = '=')
    (h : type.readNumber? cs = some n) : c ∉ cs := by
  obtain ⟨lead, core, trail, rfl, hlead, htrail, hcore, _⟩ := exists_of_readNumber? h
  have hblank : Text.isBlank c = false := by
    rcases hc with rfl | rfl | rfl <;> rfl
  have hfree : ∀ d ∈ core, d ≠ c := by
    apply hcore.forall_mem (P := fun d => d ≠ c)
    · rintro d hd rfl
      rcases hc with rfl | rfl | rfl <;> exact absurd hd (by decide)
    · rintro d hd rfl
      rcases hc with rfl | rfl | rfl <;> exact absurd hd (by decide)
    · rcases hc with rfl | rfl | rfl <;> decide
    · rcases hc with rfl | rfl | rfl <;> decide
  simp only [List.mem_append, not_or]
  exact ⟨Text.not_mem_of_isGap hlead hblank, fun hmem => hfree c hmem rfl,
    Text.not_mem_of_isGap htrail hblank⟩

theorem ne_nil_of_readNumber? (h : type.readNumber? cs = some n) : cs ≠ [] := by
  obtain ⟨lead, core, trail, rfl, _, _, hcore, _⟩ := exists_of_readNumber? h
  simp [hcore.ne_nil]

end FieldType

namespace Operator

theorem splitSign?_sign (comparison : Comparison) {cs : List Char} (h : '=' ∉ cs) :
    splitSign? (comparison.sign.toList ++ cs) =
      some (comparison.operator, Text.trimChars cs) := by
  have hhead (rest : List Char) : cs ≠ '=' :: rest := by
    rintro rfl
    exact h List.mem_cons_self
  cases comparison with
  | atLeast => rfl
  | atMost => rfl
  | above => exact splitSign?.eq_3 cs hhead
  | below => exact splitSign?.eq_4 cs hhead

theorem exists_of_splitSign? {cs rest : List Char} {operator : Operator}
    (h : splitSign? cs = some (operator, rest)) :
    ∃ (comparison : Comparison) (behind : List Char), cs = comparison.sign.toList ++ behind ∧
      comparison.operator = operator ∧ Text.trimChars behind = rest := by
  unfold splitSign? at h
  split at h
  · obtain ⟨rfl, rfl⟩ := Prod.mk.inj (Option.some.inj h)
    exact ⟨.atLeast, _, rfl, rfl, rfl⟩
  · obtain ⟨rfl, rfl⟩ := Prod.mk.inj (Option.some.inj h)
    exact ⟨.atMost, _, rfl, rfl, rfl⟩
  · obtain ⟨rfl, rfl⟩ := Prod.mk.inj (Option.some.inj h)
    exact ⟨.above, _, rfl, rfl, rfl⟩
  · obtain ⟨rfl, rfl⟩ := Prod.mk.inj (Option.some.inj h)
    exact ⟨.below, _, rfl, rfl, rfl⟩
  · exact absurd h (by simp)

theorem splitSign?_of_not_mem {cs : List Char} (hless : '<' ∉ cs) (hgreater : '>' ∉ cs) :
    splitSign? cs = none := by
  unfold splitSign?
  split <;> simp_all

end Operator

/-! ## Hyphens -/

namespace Condition

variable {type : FieldType} {before after l r l' r' low high cs : List Char} {m n x y : Number}

theorem exists_of_splitRange? (h : splitRange? type before after = some (x, y)) :
    ∃ l r, after = l ++ '-' :: r ∧ type.readNumber? (before.reverse ++ l) = some x ∧
      type.readNumber? r = some y := by
  induction after generalizing before with
  | nil => exact absurd h (by simp [splitRange?])
  | cons c after ih =>
    rw [splitRange?] at h
    split at h
    · rename_i range hfound
      obtain rfl := Option.some.inj h
      split at hfound
      · rename_i hhyphen
        obtain ⟨low, hlow, hrest⟩ := Option.bind_eq_some_iff.mp hfound
        obtain ⟨high, hhigh, hpair⟩ := Option.map_eq_some_iff.mp hrest
        obtain ⟨rfl, rfl⟩ := Prod.mk.inj hpair
        exact ⟨[], after, by simp [hhyphen.1], by simpa using hlow, hhigh⟩
      · exact absurd hfound (by simp)
    · obtain ⟨l, r, rfl, hlow, hhigh⟩ := ih h
      exact ⟨c :: l, r, rfl, by simpa using hlow, hhigh⟩

theorem isSome_splitRange? (hlow : type.readNumber? (before.reverse ++ l) = some x)
    (hhigh : type.readNumber? r = some y) :
    (splitRange? type before (l ++ '-' :: r)).isSome = true := by
  induction l generalizing before with
  | nil =>
    rw [List.append_nil] at hlow
    have hne : before ≠ [] := by
      simpa using FieldType.ne_nil_of_readNumber? hlow
    simp [splitRange?, hne, hlow, hhigh]
  | cons c l ih =>
    rw [List.cons_append, splitRange?]
    split
    · rfl
    · exact ih (by simpa using hlow)

/-- The hyphen between two numbers is the only one. -/
theorem eq_of_hyphens (h : l ++ '-' :: r = l' ++ '-' :: r') (hl : type.readNumber? l = some m)
    (hl' : type.readNumber? l' = some n) : l = l' ∧ r = r' := by
  suffices hlow : l = l' by
    subst hlow
    exact ⟨rfl, (List.cons.inj (List.append_cancel_left h)).2⟩
  rcases List.append_eq_append_iff.mp h with ⟨x, rfl, hrest⟩ | ⟨x, rfl, hrest⟩
  · cases x with
    | nil => exact (List.append_nil l).symm
    | cons c x =>
      obtain ⟨rfl, _⟩ := List.cons.inj hrest
      exact absurd hl (FieldType.readNumber?_before_hyphen hl')
  · cases x with
    | nil => exact List.append_nil l'
    | cons c x =>
      obtain ⟨rfl, _⟩ := List.cons.inj hrest
      exact absurd hl' (FieldType.readNumber?_before_hyphen hl)

theorem splitRange?_of_numbers (hlow : type.readNumber? low = some x)
    (hhigh : type.readNumber? high = some y) :
    splitRange? type [] (low ++ '-' :: high) = some (x, y) := by
  have hsome : (splitRange? type [] (low ++ '-' :: high)).isSome = true :=
    isSome_splitRange? hlow hhigh
  obtain ⟨⟨m, n⟩, hsplit⟩ := Option.isSome_iff_exists.mp hsome
  obtain ⟨l, r, htext, hl, hr⟩ := exists_of_splitRange? hsplit
  obtain ⟨rfl, rfl⟩ := eq_of_hyphens htext hlow hl
  have hm : some x = some m := hlow.symm.trans hl
  have hn : some y = some n := hhigh.symm.trans hr
  rw [hsplit, Option.some.inj hm, Option.some.inj hn]

theorem splitRange?_of_number (h : type.readNumber? cs = some n) :
    splitRange? type [] cs = none := by
  cases hsplit : splitRange? type [] cs with
  | none => rfl
  | some range =>
    obtain ⟨l, r, rfl, hl, _⟩ := exists_of_splitRange? hsplit
    exact absurd hl (FieldType.readNumber?_before_hyphen h)

/-! ## Reading a form -/

/-- The condition that a text without blanks around it stands for. -/
def readTrimmed? (type : FieldType) (cs : List Char) : Option Condition :=
  match Operator.splitSign? cs with
  | some (operator, rest) => (type.readNumber? rest).map (ofSign operator)
  | none =>
    match splitRange? type [] cs with
    | some (low, high) => some (within low high)
    | none => (type.readNumber? cs).map fun n => exact (.number n)

theorem ofNumberText_eq (type : FieldType) (raw : String) :
    ofNumberText type raw =
      match readTrimmed? type (Text.trimChars raw.toList) with
      | some condition => .ok condition
      | none => .error (.malformedValue raw type) := rfl

theorem exists_form_of_readTrimmed? {condition : Condition}
    (h : readTrimmed? type cs = some condition) :
    ∃ form : NumberForm, form.text.toList = cs ∧ form.read? type = some condition := by
  unfold readTrimmed? at h
  split at h
  · rename_i operator rest hsign
    obtain ⟨comparison, behind, rfl, rfl, rfl⟩ := Operator.exists_of_splitSign? hsign
    obtain ⟨n, hn, rfl⟩ := Option.map_eq_some_iff.mp h
    rw [FieldType.readNumber?_trimChars] at hn
    refine ⟨.compared comparison (String.ofList behind), by simp [NumberForm.text], ?_⟩
    simp [NumberForm.read?, hn, Comparison.ofSign_operator]
  · split at h
    · rename_i low high hrange
      obtain rfl := Option.some.inj h
      obtain ⟨l, r, rfl, hl, hr⟩ := exists_of_splitRange? hrange
      refine ⟨.range (String.ofList l) (String.ofList r), by simp [NumberForm.text], ?_⟩
      simp only [List.reverse_nil, List.nil_append] at hl
      simp [NumberForm.read?, hl, hr]
    · obtain ⟨n, hn, rfl⟩ := Option.map_eq_some_iff.mp h
      exact ⟨.number (String.ofList cs), by simp [NumberForm.text], by simp [NumberForm.read?, hn]⟩

theorem readTrimmed?_of_number (h : type.readNumber? cs = some n) :
    readTrimmed? type cs = some (exact (.number n)) := by
  unfold readTrimmed?
  rw [Operator.splitSign?_of_not_mem (FieldType.not_mem_of_readNumber? (by simp) h)
    (FieldType.not_mem_of_readNumber? (by simp) h), splitRange?_of_number h, h]
  rfl

theorem readTrimmed?_of_sign (comparison : Comparison) (h : type.readNumber? cs = some n) :
    readTrimmed? type (comparison.sign.toList ++ cs) = some (comparison.condition n) := by
  unfold readTrimmed?
  rw [Operator.splitSign?_sign comparison (FieldType.not_mem_of_readNumber? (by simp) h)]
  simp [FieldType.readNumber?_trimChars, h, Comparison.ofSign_operator]

theorem readTrimmed?_of_numbers (hlow : type.readNumber? low = some x)
    (hhigh : type.readNumber? high = some y) :
    readTrimmed? type (low ++ '-' :: high) = some (within x y) := by
  have hfree {c : Char} (hc : c = '<' ∨ c = '>' ∨ c = '=') : c ∉ low ++ '-' :: high := by
    have hlow := FieldType.not_mem_of_readNumber? hc hlow
    have hhigh := FieldType.not_mem_of_readNumber? hc hhigh
    have hhyphen : c ≠ '-' := by
      rcases hc with rfl | rfl | rfl <;> decide
    simp [hlow, hhigh, hhyphen]
  unfold readTrimmed?
  rw [Operator.splitSign?_of_not_mem (hfree (by simp)) (hfree (by simp)),
    splitRange?_of_numbers hlow hhigh]

/-- A trim takes the outer blanks of a form away and leaves a form with the same reading. -/
theorem readTrimmed?_of_form {form : NumberForm} {condition : Condition}
    (h : form.read? type = some condition) :
    readTrimmed? type (Text.trimChars form.text.toList) = some condition := by
  cases form with
  | number text =>
    obtain ⟨n, hn, rfl⟩ := Option.map_eq_some_iff.mp h
    obtain ⟨lead, core, trail, hcs, hlead, htrail, hcore, hread⟩ :=
      FieldType.exists_of_readNumber? hn
    rw [NumberForm.text, hcs, Text.trimChars_between hlead htrail hcore.isTrimmed]
    exact readTrimmed?_of_number hread
  | compared comparison text =>
    obtain ⟨n, hn, rfl⟩ := Option.map_eq_some_iff.mp h
    obtain ⟨lead, core, trail, hcs, hlead, htrail, hcore, hread⟩ :=
      FieldType.exists_of_readNumber? hn
    have htrimmed : Text.IsTrimmed (comparison.sign.toList ++ (lead ++ core)) :=
      Text.isTrimmed_of_ends lead comparison.isTrimmed_sign hcore.isTrimmed
        comparison.sign_ne_nil hcore.ne_nil
    have hsplit : (NumberForm.compared comparison text).text.toList =
        [] ++ ((comparison.sign.toList ++ (lead ++ core)) ++ trail) := by
      simp [NumberForm.text, hcs]
    rw [hsplit, Text.trimChars_between Text.isGap_nil htrail htrimmed]
    rw [← FieldType.readNumber?_behind_gap hlead hcore.isTrimmed] at hread
    exact readTrimmed?_of_sign comparison hread
  | range low high =>
    obtain ⟨x, hx, hrest⟩ := Option.bind_eq_some_iff.mp h
    obtain ⟨y, hy, rfl⟩ := Option.map_eq_some_iff.mp hrest
    obtain ⟨lead, first, gap, hlow, hlead, hgap, hfirst, hx⟩ := FieldType.exists_of_readNumber? hx
    obtain ⟨gap', last, trail, hhigh, hgap', htrail, hlast, hy⟩ :=
      FieldType.exists_of_readNumber? hy
    let middle := gap ++ '-' :: gap'
    have htrimmed : Text.IsTrimmed (first ++ (middle ++ last)) :=
      Text.isTrimmed_of_ends middle hfirst.isTrimmed hlast.isTrimmed hfirst.ne_nil hlast.ne_nil
    have hsplit : (NumberForm.range low high).text.toList =
        lead ++ ((first ++ (middle ++ last)) ++ trail) := by
      simp [NumberForm.text, hlow, hhigh, middle]
    have hparts : first ++ (middle ++ last) = (first ++ gap) ++ '-' :: (gap' ++ last) := by
      simp [middle]
    rw [hsplit, Text.trimChars_between hlead htrail htrimmed, hparts]
    rw [← FieldType.readNumber?_before_gap hgap hfirst.isTrimmed] at hx
    rw [← FieldType.readNumber?_behind_gap hgap' hlast.isTrimmed] at hy
    exact readTrimmed?_of_numbers hx hy

end Condition

namespace NumberForm

variable {type : FieldType} {a b c d : String} {m n : Number}

def parts : NumberForm → List String
  | number text | compared _ text => [text]
  | range low high => [low, high]

theorem exists_of_read? {form : NumberForm} {condition : Condition}
    (h : form.read? type = some condition) :
    ∀ part ∈ form.parts, ∃ n, type.readNumber? part.toList = some n := by
  cases form with
  | number text =>
    obtain ⟨n, hn, _⟩ := Option.map_eq_some_iff.mp h
    exact List.forall_mem_singleton.mpr ⟨n, hn⟩
  | compared comparison text =>
    obtain ⟨n, hn, _⟩ := Option.map_eq_some_iff.mp h
    exact List.forall_mem_singleton.mpr ⟨n, hn⟩
  | range low high =>
    obtain ⟨x, hx, hrest⟩ := Option.bind_eq_some_iff.mp h
    obtain ⟨y, hy, _⟩ := Option.map_eq_some_iff.mp hrest
    exact List.forall_mem_cons.mpr ⟨⟨x, hx⟩, List.forall_mem_singleton.mpr ⟨y, hy⟩⟩

theorem text_number_ne_compared (comparison : Comparison)
    (h : type.readNumber? a.toList = some n) :
    (number a).text ≠ (compared comparison b).text := by
  intro htext
  obtain ⟨c, cs, hsign, hc⟩ := comparison.eq_cons_of_sign
  have hchars := congrArg String.toList htext
  simp only [text, String.toList_append, hsign] at hchars
  refine FieldType.not_mem_of_readNumber? (c := c) ?_ h (by simp [hchars])
  rcases hc with rfl | rfl <;> simp

theorem text_number_ne_range (h : type.readNumber? a.toList = some n)
    (hlow : type.readNumber? b.toList = some m) : (number a).text ≠ (range b c).text := by
  intro htext
  have hchars : a.toList = b.toList ++ '-' :: c.toList := by
    simpa [text] using congrArg String.toList htext
  rw [hchars] at h
  exact FieldType.readNumber?_before_hyphen h hlow

theorem text_range_ne_compared (comparison : Comparison)
    (h : type.readNumber? a.toList = some n) :
    (range a b).text ≠ (compared comparison c).text := by
  intro htext
  obtain ⟨d, ds, hsign, hd⟩ := comparison.eq_cons_of_sign
  have hchars : a.toList ++ '-' :: b.toList = (d :: ds) ++ c.toList := by
    simpa [text, hsign] using congrArg String.toList htext
  obtain ⟨e, es, ha⟩ := List.exists_cons_of_ne_nil (FieldType.ne_nil_of_readNumber? h)
  rw [ha] at hchars
  obtain ⟨rfl, _⟩ := List.cons.inj hchars
  refine FieldType.not_mem_of_readNumber? (c := e) ?_ h (by simp [ha])
  rcases hd with rfl | rfl <;> simp

theorem eq_of_compared_text {first second : Comparison}
    (hfirst : type.readNumber? a.toList = some m) (hsecond : type.readNumber? b.toList = some n)
    (htext : (compared first a).text = (compared second b).text) :
    compared first a = compared second b := by
  have hchars := congrArg String.toList htext
  simp only [text, String.toList_append] at hchars
  have hsplit := Operator.splitSign?_sign first
    (FieldType.not_mem_of_readNumber? (by simp) hfirst)
  rw [hchars, Operator.splitSign?_sign second
    (FieldType.not_mem_of_readNumber? (by simp) hsecond)] at hsplit
  obtain ⟨hoperator, _⟩ := Prod.mk.inj (Option.some.inj hsplit)
  obtain rfl := Comparison.operator_injective hoperator
  rw [String.toList_injective (List.append_cancel_left hchars)]

theorem eq_of_range_text (hfirst : type.readNumber? a.toList = some m)
    (hsecond : type.readNumber? c.toList = some n) (htext : (range a b).text = (range c d).text) :
    range a b = range c d := by
  have hchars : a.toList ++ '-' :: b.toList = c.toList ++ '-' :: d.toList := by
    simpa [text] using congrArg String.toList htext
  obtain ⟨hlow, hhigh⟩ := Condition.eq_of_hyphens hchars hfirst hsecond
  rw [String.toList_injective hlow, String.toList_injective hhigh]

/-- Two forms with the same text are the same. -/
theorem eq_of_text_eq {form other : NumberForm} {x y : Condition} (htext : form.text = other.text)
    (hform : form.read? type = some x) (hother : other.read? type = some y) : form = other := by
  have hparts := exists_of_read? hform
  have hparts' := exists_of_read? hother
  cases form with
  | number a =>
    obtain ⟨n, hn⟩ := hparts a (by simp [parts])
    cases other with
    | number b => exact congrArg number htext
    | compared comparison b => exact absurd htext (text_number_ne_compared comparison hn)
    | range b c =>
      obtain ⟨m, hm⟩ := hparts' b (by simp [parts])
      exact absurd htext (text_number_ne_range hn hm)
  | compared first a =>
    obtain ⟨n, hn⟩ := hparts a (by simp [parts])
    cases other with
    | number b =>
      obtain ⟨m, hm⟩ := hparts' b (by simp [parts])
      exact absurd htext.symm (text_number_ne_compared first hm)
    | compared second b =>
      obtain ⟨m, hm⟩ := hparts' b (by simp [parts])
      exact eq_of_compared_text hn hm htext
    | range b c =>
      obtain ⟨m, hm⟩ := hparts' b (by simp [parts])
      exact absurd htext.symm (text_range_ne_compared first hm)
  | range a b =>
    obtain ⟨n, hn⟩ := hparts a (by simp [parts])
    cases other with
    | number c =>
      obtain ⟨m, hm⟩ := hparts' c (by simp [parts])
      exact absurd htext.symm (text_number_ne_range hm hn)
    | compared comparison c => exact absurd htext (text_range_ne_compared comparison hn)
    | range c d =>
      obtain ⟨m, hm⟩ := hparts' c (by simp [parts])
      exact eq_of_range_text hn hm htext

end NumberForm

namespace Condition

variable {type : FieldType}

theorem classify_of_isNumeric [RegexLibrary] (htype : type.isNumeric = true) (raw : String) :
    classify type raw = ofNumberText type raw := by
  cases type with
  | integer | float | decimal => rfl
  | text | datetime | boolean | relation _ => exact absurd htype Bool.false_ne_true

theorem ofNumberText_of_form {form : NumberForm} {condition : Condition}
    (h : form.read? type = some condition) {raw : String}
    (hraw : Text.trim raw = Text.trim form.text) : ofNumberText type raw = .ok condition := by
  have hchars : Text.trimChars raw.toList = Text.trimChars form.text.toList := by
    simpa [Text.trim] using congrArg String.toList hraw
  rw [ofNumberText_eq, hchars, readTrimmed?_of_form h]

/-- A range holds of what both of its bounds hold of. -/
theorem holds_within (x y : Number) (v : Value) :
    (within x y).holds v = ((atLeast x).holds v && (atMost y).holds v) := by
  cases v with
  | number v => rw [holds, holds, holds]
  | text s => rfl
  | bool b => rfl
  | missing => rfl

/-- The texts of conditions on numbers. Numbers of a type make a condition in each of the forms,
whatever blanks stand around them. A text that is accepted is one form alone, but for the blanks
around it, and is read as that form; any other text is malformed. -/
theorem classify_number_forms [RegexLibrary] (htype : type.isNumeric = true) :
    (∀ (a b : String) (x y : Number), type.readNumber? a.toList = some x →
      type.readNumber? b.toList = some y →
        classify type a = .ok (exact (.number x)) ∧
        classify type (a ++ "-" ++ b) = .ok (within x y) ∧
        ∀ comparison : Comparison,
          classify type (comparison.sign ++ a) = .ok (comparison.condition x)) ∧
    (∀ raw : String,
      (∃ form : NumberForm, ∃ condition, form.text = Text.trim raw ∧
        form.read? type = some condition ∧ classify type raw = .ok condition ∧
        ∀ other : NumberForm, other.text = Text.trim raw → (other.read? type).isSome = true →
          other = form) ∨
      classify type raw = .error (.malformedValue raw type) ∧
        ∀ form : NumberForm, form.text = Text.trim raw → form.read? type = none) ∧
    ∀ (x y : Number) (v : Value),
      (within x y).holds v = ((atLeast x).holds v && (atMost y).holds v) := by
  have hread (form : NumberForm) {condition : Condition} (h : form.read? type = some condition) :
      classify type form.text = .ok condition := by
    rw [classify_of_isNumeric htype, ofNumberText_of_form h rfl]
  refine ⟨fun a b x y ha hb => ⟨?_, ?_, fun comparison => ?_⟩, fun raw => ?_, holds_within⟩
  · exact hread (.number a) (by simp [NumberForm.read?, ha])
  · exact hread (.range a b) (by simp [NumberForm.read?, ha, hb])
  · exact hread (.compared comparison a) (by simp [NumberForm.read?, ha])
  · rw [classify_of_isNumeric htype]
    cases hresult : readTrimmed? type (Text.trimChars raw.toList) with
    | some condition =>
      left
      obtain ⟨form, htext, hform⟩ := exists_form_of_readTrimmed? hresult
      have htext : form.text = Text.trim raw := by
        apply String.toList_injective
        rw [htext, Text.trim, String.toList_ofList]
      refine ⟨form, condition, htext, hform, by rw [ofNumberText_eq, hresult], ?_⟩
      intro other hother hsome
      obtain ⟨_, hother'⟩ := Option.isSome_iff_exists.mp hsome
      exact NumberForm.eq_of_text_eq (hother.trans htext.symm) hother' hform
    | none =>
      right
      refine ⟨by rw [ofNumberText_eq, hresult], fun form htext => ?_⟩
      cases hform : form.read? type with
      | none => rfl
      | some condition =>
        have hchars := readTrimmed?_of_form hform
        rw [htext, Text.trim, String.toList_ofList, Text.trimChars_trimChars, hresult] at hchars
        exact absurd hchars (by simp)

/-- A range of decimals between blanks, where hyphens are also signs of a number and of an
exponent. -/
theorem classify_number_forms_of_hyphens :
    letI : RegexLibrary := .permissive
    let x : Number := .decimal ⟨true, 5, 1, by decide, by decide⟩
    let y : Number := .decimal ⟨true, 3, 2, by decide, by decide⟩
    FieldType.isNumeric .decimal = true ∧
      FieldType.readNumber? .decimal " -5e-1".toList = some x ∧
      FieldType.readNumber? .decimal "-0.0_3 ".toList = some y ∧
      classify .decimal " -5e-1--0.0_3 " = .ok (within x y) := by
  let : RegexLibrary := .permissive
  intro x y
  have htype : FieldType.isNumeric .decimal = true := rfl
  have hx : FieldType.readNumber? .decimal " -5e-1".toList = some x := by decide
  have hy : FieldType.readNumber? .decimal "-0.0_3 ".toList = some y := by decide
  obtain ⟨hnumbers, _⟩ := classify_number_forms htype
  obtain ⟨_, hrange, _⟩ := hnumbers " -5e-1" "-0.0_3 " x y hx hy
  exact ⟨htype, hx, hy, hrange⟩

end Condition

end RecordQuery
