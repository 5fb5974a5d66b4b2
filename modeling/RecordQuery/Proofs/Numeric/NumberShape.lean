import Mathlib.Data.List.Basic
import RecordQuery.Proofs.Numeric.Digits
import RecordQuery.Proofs.Text.Blank
import RecordQuery.Schema

/-!
# The shape of numbers in text

Whatever its type, a number is written as a sign or none, a body without hyphens, and an exponent or
none. So a hyphen behind the first place stands right behind the mark of an exponent, and no number
ends in such a mark.
-/

namespace RecordQuery

def isMark (c : Char) : Bool := c == 'e' || c == 'E'

/-- The character can stand in the body of a number: a digit, a point, a separator, or a letter of
a word. -/
def isInner (c : Char) : Bool := c.isDigit || c == '.' || c == '_' || (c.isAlpha && !isMark c)

inductive IsSign : List Char → Prop
  | none : IsSign []
  | minus : IsSign ['-']
  | plus : IsSign ['+']

/-- Nothing, or a mark with digits behind it. A plus sign may follow a minus sign. -/
inductive IsExponent : List Char → Prop
  | none : IsExponent []
  | marked {mark : Char} {minus sign digits : List Char} (hmark : isMark mark = true)
    (hminus : minus = [] ∨ minus = ['-']) (hsign : sign = [] ∨ sign = ['+'])
    (hne : digits ≠ []) (hdigits : ∀ c ∈ digits, c.isDigit = true) :
    IsExponent (mark :: (minus ++ (sign ++ digits)))

inductive NumberShape : List Char → Prop
  | mk {sign body exponent : List Char} (hsign : IsSign sign) (hne : body ≠ [])
    (hbody : ∀ c ∈ body, isInner c = true) (hexponent : IsExponent exponent) :
    NumberShape (sign ++ (body ++ exponent))

/-! ## Readers -/

namespace Digits

variable {cs : List Char}

theorem of_readNat? {n : Nat} (h : readNat? cs = some n) :
    cs ≠ [] ∧ ∀ c ∈ cs, c.isDigit = true := by
  unfold readNat? at h
  split at h
  · exact absurd h (by simp)
  · rename_i hread
    simpa [not_or] using hread

theorem isInner_of_isDigit {c : Char} (h : c.isDigit = true) : isInner c = true := by
  simp [isInner, h]

theorem exists_of_readInt? {n : Int} (h : readInt? cs = some n) :
    ∃ sign digits, cs = sign ++ digits ∧ IsSign sign ∧ digits ≠ [] ∧
      ∀ c ∈ digits, c.isDigit = true := by
  unfold readInt? at h
  split at h
  all_goals
    obtain ⟨_, hm, _⟩ := Option.map_eq_some_iff.mp h
    obtain ⟨_, hnat, _⟩ := Option.bind_eq_some_iff.mp hm
  · exact ⟨['-'], _, rfl, .minus, of_readNat? hnat⟩
  · exact ⟨['+'], _, rfl, .plus, of_readNat? hnat⟩
  · exact ⟨[], _, rfl, .none, of_readNat? hnat⟩

theorem exists_of_readUnsigned? {n : Nat} (h : readUnsigned? cs = some n) :
    ∃ sign digits, cs = sign ++ digits ∧ (sign = [] ∨ sign = ['+']) ∧ digits ≠ [] ∧
      ∀ c ∈ digits, c.isDigit = true := by
  unfold readUnsigned? at h
  split at h
  · exact ⟨['+'], _, rfl, Or.inr rfl, of_readNat? h⟩
  · exact ⟨[], _, rfl, Or.inl rfl, of_readNat? h⟩

theorem numberShape_of_readInt64? {n : Int64} (h : readInt64? cs = some n) : NumberShape cs := by
  obtain ⟨m, hm, _⟩ := Option.bind_eq_some_iff.mp h
  obtain ⟨sign, digits, rfl, hsign, hne, hdigits⟩ := exists_of_readInt? hm
  have hshape := NumberShape.mk hsign hne (fun c hc => isInner_of_isDigit (hdigits c hc)) .none
  rwa [List.append_nil] at hshape

end Digits

namespace Binary64

variable {cs : List Char}

theorem isInner_of_toLower {c : Char} (h : isInner c.toLower = true) : isInner c = true := by
  have hcapital : c ≠ 'E' := by
    rintro rfl
    exact absurd h (by decide)
  unfold Char.toLower at h
  split at h
  · rename_i hupper
    have hsmall : c ≠ 'e' := by
      rintro rfl
      exact absurd hupper (by decide)
    have halpha : c.isAlpha = true := (Bool.or_eq_true _ _).mpr (Or.inl (decide_eq_true hupper))
    simp [isInner, isMark, halpha, hcapital, hsmall]
  · exact h

theorem of_readWord? {negative : Bool} {x : Binary64} (h : readWord? negative cs = some x) :
    cs ≠ [] ∧ ∀ c ∈ cs, isInner c = true := by
  have hword : (cs.map Char.toLower).isEmpty = false ∧
      (cs.map Char.toLower).all isInner = true := by
    unfold readWord? at h
    dsimp only at h
    split at h
    · rename_i hnan
      rw [hnan]
      exact ⟨rfl, rfl⟩
    · split at h
      · rename_i hinfinite
        rcases hinfinite with hinf | hinfinity
        · rw [hinf]
          exact ⟨rfl, rfl⟩
        · rw [hinfinity]
          exact ⟨rfl, rfl⟩
      · exact absurd h (by simp)
  obtain ⟨hne, hinner⟩ := hword
  refine ⟨by simpa using hne, fun c hc => ?_⟩
  exact isInner_of_toLower (List.all_eq_true.mp hinner _ (List.mem_map_of_mem hc))

theorem isExponent_of_readExponent? {n : Int} (h : readExponent? cs = some n) :
    IsExponent cs := by
  unfold readExponent? at h
  split at h
  · exact .none
  · rename_i c cs
    split at h
    · rename_i hc
      have hmark : isMark c = true := by simpa [isMark] using hc
      obtain ⟨sign, digits, rfl, hsign, hne, hdigits⟩ := Digits.exists_of_readInt? h
      cases hsign with
      | none => exact .marked hmark (Or.inl rfl) (Or.inl rfl) hne hdigits
      | minus => exact .marked hmark (Or.inr rfl) (Or.inl rfl) hne hdigits
      | plus => exact .marked hmark (Or.inl rfl) (Or.inr rfl) hne hdigits
    · exact absurd h (by simp)

theorem isInner_of_mem_takeWhile {c : Char} (h : c ∈ cs.takeWhile Char.isDigit) :
    isInner c = true :=
  Digits.isInner_of_isDigit (List.all_eq_true.mp List.all_takeWhile c h)

theorem exists_of_readUnsigned? {negative : Bool} {x : Binary64}
    (h : readUnsigned? negative cs = some x) :
    ∃ body exponent, cs = body ++ exponent ∧ body ≠ [] ∧ (∀ c ∈ body, isInner c = true) ∧
      IsExponent exponent := by
  have hcs := List.takeWhile_append_dropWhile (p := Char.isDigit) (l := cs)
  unfold readUnsigned? at h
  dsimp only at h
  split at h
  · rename_i more hrest
    split at h
    · exact absurd h (by simp)
    · obtain ⟨_, hexponent, _⟩ := Option.map_eq_some_iff.mp h
      refine ⟨cs.takeWhile Char.isDigit ++ '.' :: more.takeWhile Char.isDigit,
        more.dropWhile Char.isDigit, ?_, by simp, ?_, isExponent_of_readExponent? hexponent⟩
      · rw [List.append_assoc, List.cons_append, List.takeWhile_append_dropWhile, ← hrest, hcs]
      · intro c hc
        rcases List.mem_append.mp hc with hc | hc
        · exact isInner_of_mem_takeWhile hc
        · rcases List.mem_cons.mp hc with rfl | hc
          · rfl
          · exact isInner_of_mem_takeWhile hc
  · split at h
    · exact absurd h (by simp)
    · rename_i hdigits
      obtain ⟨_, hexponent, _⟩ := Option.map_eq_some_iff.mp h
      exact ⟨_, _, hcs.symm, by simpa using hdigits, fun c hc => isInner_of_mem_takeWhile hc,
        isExponent_of_readExponent? hexponent⟩

theorem exists_of_readMagnitude? {negative : Bool} {x : Binary64}
    (h : readMagnitude? negative cs = some x) :
    ∃ body exponent, cs = body ++ exponent ∧ body ≠ [] ∧ (∀ c ∈ body, isInner c = true) ∧
      IsExponent exponent := by
  rcases Option.or_eq_some_iff.mp h with hword | ⟨_, hdigits⟩
  · obtain ⟨hne, hinner⟩ := of_readWord? hword
    exact ⟨cs, [], (List.append_nil cs).symm, hne, hinner, .none⟩
  · exact exists_of_readUnsigned? hdigits

theorem numberShape_of_read? {x : Binary64} (h : read? cs = some x) : NumberShape cs := by
  unfold read? at h
  split at h
  all_goals obtain ⟨body, exponent, rfl, hne, hbody, hexponent⟩ := exists_of_readMagnitude? h
  · exact .mk .minus hne hbody hexponent
  · exact .mk .plus hne hbody hexponent
  · exact .mk .none hne hbody hexponent

end Binary64

namespace Decimal

variable {negative point seen : Bool} {size scale : Nat} {cs : List Char} {d : Decimal}

theorem isInner_of_rounded? {next : Char} (h : rounded? negative size scale next cs = some d) :
    ∀ c ∈ next :: cs, isInner c = true := by
  unfold rounded? at h
  split at h
  · exact absurd h (by simp)
  · rename_i hall
    intro c hc
    have hc : c.isDigit = true ∨ c = '_' := by
      simp only [Bool.not_eq_true, Bool.not_eq_false'] at hall
      simpa using List.all_eq_true.mp hall c hc
    rcases hc with hc | rfl
    · exact Digits.isInner_of_isDigit hc
    · rfl

theorem isInner_of_dropWhile {cs : List Char}
    (h : ∀ c ∈ cs.dropWhile (· == '_'), isInner c = true) : ∀ c ∈ cs, isInner c = true := by
  intro c hc
  rw [← List.takeWhile_append_dropWhile (p := (· == '_')) (l := cs)] at hc
  rcases List.mem_append.mp hc with hc | hc
  · have hseparator := List.all_eq_true.mp List.all_takeWhile c hc
    rw [beq_iff_eq.mp hseparator]
    rfl
  · exact h c hc

/-- Behind the last place that is kept stand digits and separators alone. -/
theorem isInner_of_last {wide : Prop} [Decidable wide] {rest : List Char}
    (h : (match (if wide then rest.dropWhile (· == '_') else rest) with
      | [] => ofDigits? negative size scale
      | next :: rest' => rounded? negative size scale next rest') = some d) :
    ∀ c ∈ rest, isInner c = true := by
  have hkept : ∀ c ∈ (if wide then rest.dropWhile (· == '_') else rest), isInner c = true := by
    split at h
    · rename_i hnil
      rw [hnil]
      exact fun c hc => absurd hc List.not_mem_nil
    · rename_i hcons
      rw [hcons]
      exact isInner_of_rounded? h
  split at hkept
  · exact isInner_of_dropWhile hkept
  · exact hkept

theorem isInner_of_readDigits? (h : readDigits? negative point seen size scale cs = some d) :
    ∀ c ∈ cs, isInner c = true := by
  induction cs generalizing point seen size scale with
  | nil => exact fun c hc => absurd hc List.not_mem_nil
  | cons c rest ih =>
    have hcons (hc : isInner c = true) (hrest : ∀ b ∈ rest, isInner b = true) :
        ∀ b ∈ c :: rest, isInner b = true := List.forall_mem_cons.mpr ⟨hc, hrest⟩
    simp only [readDigits?] at h
    split at h
    · rename_i hdigit
      have hc := Digits.isInner_of_isDigit hdigit
      generalize (if point then scale + 1 else 0) = places at h
      split at h
      · split at h
        · exact isInner_of_rounded? h
        · exact absurd h (by simp)
      · split at h
        · exact hcons hc (isInner_of_last h)
        · exact hcons hc (ih h)
    · split at h
      · rename_i hpoint
        exact hcons (by rw [hpoint.1]; rfl) (ih h)
      · split at h
        · rename_i hseparator
          exact hcons (by rw [hseparator.1]; rfl) (ih h)
        · exact absurd h (by simp)

/-- A sign and a body, as they are read where no exponent follows. -/
theorem exists_of_readPlain? (h : readPlain? cs = some d) :
    ∃ sign body, cs = sign ++ body ∧ IsSign sign ∧ body ≠ [] ∧ ∀ c ∈ body, isInner c = true := by
  have hne (negative : Bool) : readDigits? negative false false 0 0 [] ≠ some d := by
    simp [readDigits?]
  unfold readPlain? at h
  split at h
  · exact ⟨['-'], _, rfl, .minus, fun hnil => hne _ (hnil ▸ h), isInner_of_readDigits? h⟩
  · exact ⟨['+'], _, rfl, .plus, fun hnil => hne _ (hnil ▸ h), isInner_of_readDigits? h⟩
  · exact ⟨[], _, rfl, .none, fun hnil => hne _ (hnil ▸ h), isInner_of_readDigits? h⟩

theorem isExponent_of_applyExponent? {mark : Char} {e : Decimal} (hmark : isMark mark = true)
    (h : d.applyExponent? cs = some e) : IsExponent (mark :: cs) := by
  unfold applyExponent? at h
  split at h
  all_goals
    obtain ⟨_, hplaces, _⟩ := Option.bind_eq_some_iff.mp h
    obtain ⟨sign, digits, rfl, hsign, hne, hdigits⟩ := Digits.exists_of_readUnsigned? hplaces
  · exact .marked hmark (Or.inr rfl) hsign hne hdigits
  · exact .marked hmark (Or.inl rfl) hsign hne hdigits

theorem numberShape_of_read? (h : read? cs = some d) : NumberShape cs := by
  rcases Option.or_eq_some_iff.mp h with hplain | ⟨_, hscientific⟩
  · obtain ⟨sign, body, rfl, hsign, hne, hbody⟩ := exists_of_readPlain? hplain
    have hshape := NumberShape.mk hsign hne hbody .none
    rwa [List.append_nil] at hshape
  · have hcs := List.takeWhile_append_dropWhile (p := fun c => !isMark c) (l := cs)
    dsimp only at hscientific
    split at hscientific
    · rename_i mark exponent hdrop
      obtain ⟨e, hbase, happly⟩ := Option.bind_eq_some_iff.mp hscientific
      obtain ⟨sign, body, hsplit, hsign, hne, hbody⟩ := exists_of_readPlain? hbase
      have hdrop : cs.dropWhile (fun c => !isMark c) = mark :: exponent := hdrop
      have hsplit : cs.takeWhile (fun c => !isMark c) = sign ++ body := hsplit
      have hmark : isMark mark = true := by
        have hfirst := List.head?_dropWhile_not (fun c => !isMark c) cs
        rw [hdrop] at hfirst
        simpa using hfirst
      have hshape := NumberShape.mk hsign hne hbody (isExponent_of_applyExponent? hmark happly)
      rwa [← List.append_assoc, ← hsplit, ← hdrop, hcs] at hshape
    · exact absurd hscientific (by simp)

end Decimal

theorem FieldType.numberShape_of_readNumber? {type : FieldType} {cs : List Char} {n : Number}
    (h : type.readNumber? cs = some n) : NumberShape (Text.trimChars cs) := by
  unfold readNumber? at h
  dsimp only at h
  split at h
  · obtain ⟨_, hread, _⟩ := Option.map_eq_some_iff.mp h
    exact Digits.numberShape_of_readInt64? hread
  · obtain ⟨_, hread, _⟩ := Option.map_eq_some_iff.mp h
    exact Binary64.numberShape_of_read? hread
  · obtain ⟨_, hread, _⟩ := Option.map_eq_some_iff.mp h
    exact Decimal.numberShape_of_read? hread
  · exact absurd h (by simp)

/-! ## Hyphens and ends -/

section Splits

variable {α : Type} {a : α} {before after l r : List α}

/-- A front part without the entry `a` stands wholly before any `a`. -/
theorem exists_append_of_not_mem_left (h : l ++ a :: r = before ++ after) (ha : a ∉ before) :
    ∃ p, l = before ++ p ∧ after = p ++ a :: r := by
  rcases List.append_eq_append_iff.mp h with ⟨x, hbefore, hrest⟩ | hlater
  · cases x with
    | nil => exact ⟨[], by simpa using hbefore.symm, by simpa using hrest.symm⟩
    | cons b x =>
      obtain ⟨rfl, _⟩ := List.cons.inj hrest
      exact absurd (by simp [hbefore]) ha
  · exact hlater

/-- A back part without the entry `a` stands wholly behind any `a`. -/
theorem exists_append_of_not_mem_right (h : l ++ a :: r = before ++ after) (ha : a ∉ after) :
    ∃ q, before = l ++ a :: q := by
  rcases List.append_eq_append_iff.mp h with ⟨x, hbefore, hrest⟩ | ⟨x, _, hafter⟩
  · cases x with
    | nil =>
      have hrest : a :: r = after := hrest
      exact absurd (hrest ▸ List.mem_cons_self) ha
    | cons b x =>
      obtain ⟨rfl, _⟩ := List.cons.inj hrest
      exact ⟨x, hbefore⟩
  · exact absurd (by simp [hafter]) ha

end Splits

theorem isBlank_of_isAlpha {c : Char} (h : c.isAlpha = true) : Text.isBlank c = false := by
  have hc : (65 ≤ c.toNat ∧ c.toNat ≤ 90) ∨ (97 ≤ c.toNat ∧ c.toNat ≤ 122) := by
    rcases (Bool.or_eq_true _ _).mp h with hupper | hlower
    · exact Or.inl (of_decide_eq_true hupper)
    · obtain ⟨hfrom, hto⟩ := (Bool.and_eq_true _ _).mp hlower
      exact Or.inr ⟨of_decide_eq_true hfrom, of_decide_eq_true hto⟩
  simp only [Text.isBlank, Bool.or_eq_false_iff, Bool.and_eq_false_iff, decide_eq_false_iff_not,
    beq_eq_false_iff_ne]
  omega

theorem isBlank_of_isInner {c : Char} (h : isInner c = true) : Text.isBlank c = false := by
  simp only [isInner, Bool.or_eq_true, beq_iff_eq, Bool.and_eq_true] at h
  rcases h with ((hdigit | rfl) | rfl) | ⟨halpha, _⟩
  · exact Digits.isBlank_of_isDigit hdigit
  · rfl
  · rfl
  · exact isBlank_of_isAlpha halpha

theorem isBlank_of_isMark {c : Char} (h : isMark c = true) : Text.isBlank c = false := by
  simp only [isMark, Bool.or_eq_true, beq_iff_eq] at h
  rcases h with rfl | rfl <;> rfl

theorem isMark_of_isInner {c : Char} (h : isInner c = true) : isMark c = false := by
  by_contra hmark
  simp only [isMark, Bool.not_eq_false, Bool.or_eq_true, beq_iff_eq] at hmark
  rcases hmark with rfl | rfl <;> exact absurd h (by decide)

theorem IsExponent.eq_of_hyphen {p q : List Char} (h : IsExponent (p ++ '-' :: q)) :
    ∃ mark, isMark mark = true ∧ p = [mark] := by
  generalize hcs : p ++ '-' :: q = cs at h
  cases h with
  | none => exact absurd hcs (by simp)
  | @marked mark minus sign digits hmark hminus hsign _ hdigits =>
    have hfree : '-' ∉ sign ++ digits := by
      intro hmem
      rcases List.mem_append.mp hmem with hmem | hmem
      · rcases hsign with rfl | rfl
        · exact absurd hmem List.not_mem_nil
        · exact absurd hmem (by decide)
      · exact absurd (hdigits '-' hmem) (by decide)
    cases p with
    | nil =>
      obtain ⟨rfl, _⟩ := List.cons.inj hcs
      exact absurd hmark (by decide)
    | cons c p =>
      obtain ⟨rfl, hrest⟩ := List.cons.inj hcs
      refine ⟨c, hmark, ?_⟩
      rcases hminus with rfl | rfl
      · exact absurd (hrest ▸ List.mem_append_right p List.mem_cons_self) hfree
      · cases p with
        | nil => rfl
        | cons b p =>
          obtain ⟨_, hrest⟩ := List.cons.inj hrest
          have hrest : p ++ '-' :: q = sign ++ digits := hrest
          exact absurd (hrest ▸ List.mem_append_right p List.mem_cons_self) hfree

namespace NumberShape

variable {cs : List Char}

theorem ne_nil (h : NumberShape cs) : cs ≠ [] := by
  cases h with
  | mk _ hne _ _ => simp [hne]

/-- What holds of the characters of each part holds of all characters of a number. -/
theorem forall_mem {P : Char → Prop} (hinner : ∀ c, isInner c = true → P c)
    (hmark : ∀ c, isMark c = true → P c) (hminus : P '-') (hplus : P '+') (h : NumberShape cs) :
    ∀ c ∈ cs, P c := by
  have hdigit (c : Char) (hc : c.isDigit = true) : P c :=
    hinner c (Digits.isInner_of_isDigit hc)
  obtain ⟨hsign, _, hbody, hexponent⟩ := h
  simp only [List.forall_mem_append]
  refine ⟨?_, fun c hc => hinner c (hbody c hc), ?_⟩
  · cases hsign <;> simp [hminus, hplus]
  · cases hexponent with
    | none => simp
    | marked hmarked hminus' hsign' _ hdigits =>
      rw [List.forall_mem_cons]
      refine ⟨hmark _ hmarked, ?_⟩
      simp only [List.forall_mem_append]
      refine ⟨?_, ?_, fun c hc => hdigit c (hdigits c hc)⟩
      · rcases hminus' with rfl | rfl <;> simp [hminus]
      · rcases hsign' with rfl | rfl <;> simp [hplus]

theorem isBlank_eq_false (h : NumberShape cs) : ∀ c ∈ cs, Text.isBlank c = false :=
  h.forall_mem (fun _ => isBlank_of_isInner) (fun _ => isBlank_of_isMark) (by decide) (by decide)

theorem isTrimmed (h : NumberShape cs) : Text.IsTrimmed cs :=
  Text.isTrimmed_of_forall h.isBlank_eq_false

/-- A hyphen behind the first place of a number stands right behind the mark of an exponent. -/
theorem isMark_of_hyphen {p q : List Char} (h : NumberShape (p ++ '-' :: q)) (hp : p ≠ []) :
    ∃ c ∈ p.getLast?, isMark c = true := by
  generalize hcs : p ++ '-' :: q = cs at h
  obtain @⟨sign, body, exponent, hsign, _, hbody, hexponent⟩ := h
  obtain ⟨_, rfl, hrest⟩ : ∃ rest, p = sign ++ rest ∧ body ++ exponent = rest ++ '-' :: q := by
    cases p with
    | nil => exact absurd rfl hp
    | cons c p =>
      cases hsign with
      | none => exact ⟨c :: p, rfl, hcs.symm⟩
      | minus =>
        obtain ⟨rfl, hrest⟩ := List.cons.inj hcs
        exact ⟨p, rfl, hrest.symm⟩
      | plus =>
        obtain ⟨rfl, hrest⟩ := List.cons.inj hcs
        exact ⟨p, rfl, hrest.symm⟩
  have hfree : '-' ∉ body := fun hmem => absurd (hbody '-' hmem) (by decide)
  obtain ⟨behind, rfl, rfl⟩ := exists_append_of_not_mem_left hrest.symm hfree
  obtain ⟨mark, hmark, rfl⟩ := hexponent.eq_of_hyphen
  exact ⟨mark, by simp, hmark⟩

/-- No number ends in the mark of an exponent. -/
theorem isMark_getLast? (h : NumberShape cs) : ∀ c ∈ cs.getLast?, isMark c = false := by
  intro c hc
  obtain @⟨sign, body, exponent, _, hne, hbody, hexponent⟩ := h
  rw [List.getLast?_append_of_ne_nil _ (by simp [hne])] at hc
  cases hexponent with
  | none =>
    rw [List.append_nil] at hc
    exact isMark_of_isInner (hbody c (List.mem_of_mem_getLast? hc))
  | @marked mark minus sign digits _ _ _ hdigits' hdigits =>
    have hlast : c ∈ digits.getLast? := by
      rwa [List.getLast?_append_of_ne_nil _ (by simp), ← List.singleton_append,
        List.getLast?_append_of_ne_nil _ (by simp [hdigits']),
        List.getLast?_append_of_ne_nil _ (by simp [hdigits']),
        List.getLast?_append_of_ne_nil _ hdigits'] at hc
    exact isMark_of_isInner (Digits.isInner_of_isDigit (hdigits c (List.mem_of_mem_getLast? hlast)))

end NumberShape

namespace FieldType

variable {type : FieldType}

theorem readNumber?_between {lead core trail : List Char} (hlead : Text.IsGap lead)
    (htrail : Text.IsGap trail) (hcore : Text.IsTrimmed core) :
    type.readNumber? (lead ++ (core ++ trail)) = type.readNumber? core := by
  have hself : Text.trimChars ([] ++ (core ++ [])) = core :=
    Text.trimChars_between Text.isGap_nil Text.isGap_nil hcore
  rw [List.nil_append, List.append_nil] at hself
  unfold readNumber?
  rw [Text.trimChars_between hlead htrail hcore, hself]

theorem readNumber?_behind_gap {gap core : List Char} (hgap : Text.IsGap gap)
    (hcore : Text.IsTrimmed core) : type.readNumber? (gap ++ core) = type.readNumber? core := by
  have h : type.readNumber? (gap ++ (core ++ [])) = type.readNumber? core :=
    readNumber?_between hgap Text.isGap_nil hcore
  rwa [List.append_nil] at h

theorem readNumber?_before_gap {core gap : List Char} (hgap : Text.IsGap gap)
    (hcore : Text.IsTrimmed core) : type.readNumber? (core ++ gap) = type.readNumber? core :=
  readNumber?_between Text.isGap_nil hgap hcore

theorem readNumber?_trimChars (type : FieldType) (cs : List Char) :
    type.readNumber? (Text.trimChars cs) = type.readNumber? cs := by
  unfold readNumber?
  rw [Text.trimChars_trimChars]

/-- What is read as a number is a number between blanks. -/
theorem exists_of_readNumber? {cs : List Char} {n : Number} (h : type.readNumber? cs = some n) :
    ∃ lead core trail, cs = lead ++ (core ++ trail) ∧ Text.IsGap lead ∧ Text.IsGap trail ∧
      NumberShape core ∧ type.readNumber? core = some n := by
  obtain ⟨lead, trail, hcs, hlead, htrail⟩ := Text.exists_between cs
  exact ⟨lead, _, trail, hcs, hlead, htrail, numberShape_of_readNumber? h,
    (readNumber?_trimChars type cs).trans h⟩

/-- The part of a number before one of its hyphens is no number. -/
theorem readNumber?_before_hyphen {l r : List Char} {m n : Number}
    (h : type.readNumber? (l ++ '-' :: r) = some n) : type.readNumber? l ≠ some m := by
  intro hl
  obtain ⟨lead, core, trail, hwhole, hlead, htrail, hcore, _⟩ := exists_of_readNumber? h
  obtain ⟨lead', core', trail', hpart, _, htrail', hcore', _⟩ := exists_of_readNumber? hl
  have hhyphen : Text.isBlank '-' = false := rfl
  obtain ⟨p, rfl, hbehind⟩ :=
    exists_append_of_not_mem_left hwhole (Text.not_mem_of_isGap hlead hhyphen)
  obtain ⟨q, rfl⟩ :=
    exists_append_of_not_mem_right hbehind.symm (Text.not_mem_of_isGap htrail hhyphen)
  have hp : p ≠ [] := by
    rintro rfl
    obtain ⟨c, hc⟩ := List.exists_mem_of_ne_nil _ hcore'.ne_nil
    have hmem : c ∈ lead := by
      rw [List.append_nil] at hpart
      simp [hpart, hc]
    exact Text.not_mem_of_isGap hlead (hcore'.isBlank_eq_false c hc) hmem
  obtain ⟨mark, hlast, hmark⟩ := hcore.isMark_of_hyphen hp
  rw [← List.getLast?_append_of_ne_nil lead hp, hpart] at hlast
  by_cases hnil : trail' = []
  · rw [hnil, List.append_nil, List.getLast?_append_of_ne_nil _ hcore'.ne_nil] at hlast
    rw [hcore'.isMark_getLast? mark hlast] at hmark
    exact absurd hmark (by decide)
  · rw [← List.append_assoc, List.getLast?_append_of_ne_nil _ hnil] at hlast
    have hblank := htrail' mark (List.mem_of_mem_getLast? hlast)
    rw [isBlank_of_isMark hmark] at hblank
    exact absurd hblank (by decide)

end FieldType

end RecordQuery
