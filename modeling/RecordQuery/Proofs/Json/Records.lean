import Mathlib.Data.List.Find
import Mathlib.Data.List.Sort
import RecordQuery.Json.Decode
import RecordQuery.Proofs.Json.Entries

/-!
# Records that are read back

A record is read from what it was written as: an object that has each field once, in the order of
the names.
-/

namespace RecordQuery

namespace Entries

variable {key : String} {value : Json} {entries changes : Entries}

theorem Ascending.get?_of_mem (h : Ascending entries) (hmem : (key, value) ∈ entries) :
    get? entries key = some value := lookup_of_mem h hmem

theorem mem_of_get? (h : get? entries key = some value) : (key, value) ∈ entries := by
  obtain ⟨before, after, rfl, _⟩ := List.lookup_eq_some_iff.mp h
  exact List.mem_append_right _ List.mem_cons_self

theorem exists_get?_of_mem (h : (key, value) ∈ entries) :
    ∃ found, get? entries key = some found := by
  apply Option.ne_none_iff_exists'.mp
  intro hnone
  have hne := List.lookup_eq_none_iff.mp hnone _ h
  exact absurd rfl (bne_iff_ne.mp hne)

/-- Entries in order are determined by what stands under each key. -/
theorem Ascending.ext {other : Entries} (h : Ascending entries) (hother : Ascending other)
    (heq : ∀ key, get? entries key = get? other key) : entries = other := by
  have hirrefl : Std.Irrefl fun a b : String × Json => a.1 < b.1 :=
    ⟨fun a => String.lt_irrefl a.1⟩
  have hantisymm : Std.Antisymm fun a b : String × Json => a.1 < b.1 :=
    ⟨fun _ _ hab hba => absurd hba (String.lt_asymm hab)⟩
  apply List.Pairwise.eq_of_mem_iff h hother
  intro entry
  constructor
  · intro hmem
    apply mem_of_get?
    rw [← heq]
    exact h.get?_of_mem hmem
  · intro hmem
    apply mem_of_get?
    rw [heq]
    exact hother.get?_of_mem hmem

theorem get?_filter (keep : String → Bool) (entries : Entries) (key : String) :
    get? (entries.filter fun entry => keep entry.1) key =
      if keep key then get? entries key else none := by
  induction entries with
  | nil => exact (ite_self _).symm
  | cons entry rest ih =>
    obtain ⟨k, value⟩ := entry
    cases hkeep : keep k with
    | true =>
      rw [List.filter_cons, if_pos hkeep, get?_cons, get?_cons, ih]
      split
      · rename_i heq
        rw [heq, if_pos hkeep]
      · rfl
    | false =>
      rw [List.filter_cons, if_neg (by simp [hkeep]), get?_cons, ih]
      split
      · rename_i hkey
        have hne : key ≠ k := by
          rintro rfl
          exact absurd (hkey.symm.trans hkeep) (by simp)
        rw [if_neg hne]
      · rfl

theorem Ascending.overlay (h : Ascending entries) (changes : Entries) :
    Ascending (overlay entries changes) := by
  induction changes generalizing entries with
  | nil => exact h
  | cons change rest ih => exact ih (h.insert change.1 change.2)

theorem ascending_sorted (entries : Entries) : Ascending (sorted entries) :=
  Ascending.overlay List.Pairwise.nil entries

theorem insert_last (h : ∀ entry ∈ entries, entry.1 < key) (value : Json) :
    insert key value entries = entries ++ [(key, value)] := by
  induction entries with
  | nil => rfl
  | cons entry rest ih =>
    obtain ⟨k, v⟩ := entry
    obtain ⟨hlt, hrest⟩ := List.forall_mem_cons.mp h
    have hlt : k < key := hlt
    rw [insert, if_neg (String.ne_of_lt hlt).symm, if_neg (String.lt_asymm hlt), ih hrest]
    rfl

theorem overlay_last (h : Ascending (entries ++ changes)) :
    overlay entries changes = entries ++ changes := by
  induction changes generalizing entries with
  | nil => exact (List.append_nil entries).symm
  | cons change rest ih =>
    have hlast : ∀ entry ∈ entries, entry.1 < change.1 := fun entry hentry =>
      (List.pairwise_append.mp h).2.2 entry hentry change List.mem_cons_self
    rw [List.append_cons] at h ⊢
    rw [← ih h]
    exact congrArg (overlay · rest) (insert_last hlast change.2)

/-- Entries that are in order already stay as they are. -/
theorem sorted_of_ascending (h : Ascending entries) : entries.sorted = entries := overlay_last h

theorem get?_overlay_of_absent (h : key ∉ changes.map Prod.fst) (entries : Entries) :
    get? (overlay entries changes) key = get? entries key := by
  induction changes generalizing entries with
  | nil => rfl
  | cons change rest ih =>
    rw [List.map_cons, List.mem_cons, not_or] at h
    obtain ⟨hne, hrest⟩ := h
    exact (ih hrest _).trans ((get?_insert _ _ _ _).trans (if_neg hne))

theorem get?_overlay_of_mem (hnodup : (changes.map Prod.fst).Nodup)
    (h : (key, value) ∈ changes) (entries : Entries) :
    get? (overlay entries changes) key = some value := by
  induction changes generalizing entries with
  | nil => exact absurd h List.not_mem_nil
  | cons change rest ih =>
    obtain ⟨hhead, hrest⟩ := List.nodup_cons.mp hnodup
    rcases List.mem_cons.mp h with rfl | hmem
    · exact (get?_overlay_of_absent hhead _).trans ((get?_insert _ _ _ _).trans (if_pos rfl))
    · exact ih hrest hmem _

/-- Sorted entries hold what the entries hold. -/
theorem get?_sorted_of_mem (hnodup : (entries.map Prod.fst).Nodup) (h : (key, value) ∈ entries) :
    get? (sorted entries) key = some value :=
  get?_overlay_of_mem hnodup h []

end Entries

namespace Decode

variable {α : Type} {forms : List FieldForm} {entries : Entries}

section Name

variable (name : String) (read : Json → Except DecodeError α)

@[simp] theorem FieldForm.name_required : (FieldForm.required name read).name = name := rfl

@[simp] theorem FieldForm.name_defaulted : (FieldForm.defaulted name read).name = name := rfl

end Name

/-- The field takes what stands under its name: a value that passes, or nothing where it may be
left out. -/
inductive FieldForm.Takes (form : FieldForm) : Option Json → Prop where
  | value {value : Json} (h : form.check value = .ok ()) : Takes form (some value)
  | absent (h : form.optional = true) : Takes form none

theorem FieldForm.Takes.check {form : FieldForm} {value : Json} (h : form.Takes (some value)) :
    form.check value = .ok () := by
  cases h with
  | value hcheck => exact hcheck

/-- Reading goes past an entry that passes, behind which only its own key counts as met as well. -/
theorem entryProblem?_cons {seen : List String} {key : String} {value : Json}
    (hnew : key ∉ seen)
    (hpasses : ∀ form ∈ forms, form.name = key → form.check value = .ok ()) (rest : Entries) :
    ∃ met, (∀ other, other ≠ key → other ∉ seen → other ∉ met) ∧
      entryProblem? forms seen ((key, value) :: rest) = entryProblem? forms met rest := by
  rw [entryProblem?]
  split
  · exact ⟨seen, fun _ _ h => h, rfl⟩
  · rename_i form hform
    have hname : form.name = key := by simpa using List.find?_some hform
    have hcheck := hpasses form (List.mem_of_find?_eq_some hform) hname
    have hseen : seen.contains key = false := by simpa using hnew
    rw [hseen, hcheck]
    refine ⟨key :: seen, fun other hne hother => ?_, rfl⟩
    simp [hne, hother]

/-- Entries are in order if no key comes twice and every known value passes. -/
theorem entryProblem?_eq_none {seen : List String} (hascending : Entries.Ascending entries)
    (hseen : ∀ entry ∈ entries, entry.1 ∉ seen)
    (hcheck : ∀ entry ∈ entries, ∀ form ∈ forms, form.name = entry.1 →
      form.check entry.2 = .ok ()) :
    entryProblem? forms seen entries = none := by
  induction entries generalizing seen with
  | nil => rfl
  | cons entry rest ih =>
    obtain ⟨hfirst, hrest⟩ := List.pairwise_cons.mp hascending
    obtain ⟨hnew, hseenRest⟩ := List.forall_mem_cons.mp hseen
    obtain ⟨hpasses, hcheckRest⟩ := List.forall_mem_cons.mp hcheck
    obtain ⟨met, hmet, heq⟩ := entryProblem?_cons hnew hpasses rest
    refine heq.trans (ih hrest (fun entry hmem => ?_) hcheckRest)
    exact hmet _ (String.ne_of_lt (hfirst entry hmem)).symm (hseenRest entry hmem)

theorem find?_of_mem (hnodup : (forms.map FieldForm.name).Nodup) {form : FieldForm}
    (hform : form ∈ forms) : forms.find? (fun other => other.name == form.name) = some form := by
  induction forms with
  | nil => exact absurd hform List.not_mem_nil
  | cons first rest ih =>
    obtain ⟨hfirst, hrest⟩ := List.nodup_cons.mp hnodup
    rcases List.mem_cons.mp hform with rfl | hform
    · exact List.find?_cons_of_pos (beq_self_eq_true _)
    · have hne : first.name ≠ form.name := by
        intro heq
        exact hfirst (heq ▸ List.mem_map_of_mem hform)
      rw [List.find?_cons_of_neg (by simpa using hne), ih hrest hform]

theorem eq_of_name_eq (hnodup : (forms.map FieldForm.name).Nodup) {form other : FieldForm}
    (hform : form ∈ forms) (hother : other ∈ forms) (heq : form.name = other.name) :
    form = other := by
  have hfound := find?_of_mem hnodup hform
  rw [heq, find?_of_mem hnodup hother] at hfound
  exact (Option.some.inj hfound).symm

/-- If the value of one field fails and the others pass, its problem is the one reported. -/
theorem entryProblem?_of_failing {seen : List String} {form : FieldForm} {value : Json}
    {problem : DecodeError} (hnodup : (forms.map FieldForm.name).Nodup) (hform : form ∈ forms)
    (hfails : form.check value = .error problem) (hascending : Entries.Ascending entries)
    (hmem : (form.name, value) ∈ entries) (hseen : ∀ entry ∈ entries, entry.1 ∉ seen)
    (hcheck : ∀ entry ∈ entries, entry.1 ≠ form.name → ∀ other ∈ forms, other.name = entry.1 →
      other.check entry.2 = .ok ()) :
    entryProblem? forms seen entries = some problem := by
  induction entries generalizing seen with
  | nil => exact absurd hmem List.not_mem_nil
  | cons entry rest ih =>
    obtain ⟨hfirst, hrest⟩ := List.pairwise_cons.mp hascending
    obtain ⟨hnew, hseenRest⟩ := List.forall_mem_cons.mp hseen
    obtain ⟨hpasses, hcheckRest⟩ := List.forall_mem_cons.mp hcheck
    rcases List.mem_cons.mp hmem with rfl | hmem
    · have hcontains : seen.contains form.name = false := by simpa using hnew
      rw [entryProblem?, find?_of_mem hnodup hform]
      dsimp only
      rw [hcontains, hfails]
      rfl
    · have hne : entry.1 ≠ form.name := String.ne_of_lt (hfirst _ hmem)
      obtain ⟨met, hmet, heq⟩ := entryProblem?_cons hnew (hpasses hne) rest
      refine heq.trans (ih hrest hmem (fun entry hmem => ?_) hcheckRest)
      exact hmet _ (String.ne_of_lt (hfirst entry hmem)).symm (hseenRest entry hmem)

section Record

variable {name : String} {build : (String → Option Json) → Except DecodeError α}
variable (hascending : Entries.Ascending entries)
include hascending

/-- An object in which every field is taken is read as its values say. -/
theorem record_of_takes (hfields : ∀ form ∈ forms, form.Takes (Entries.get? entries form.name)) :
    record name forms build (.object entries) = build (Entries.get? entries) := by
  have hentries : entryProblem? forms [] entries = none := by
    apply entryProblem?_eq_none hascending (fun _ _ => List.not_mem_nil)
    rintro ⟨key, value⟩ hmem form hform rfl
    have htakes := hfields form hform
    rw [hascending.get?_of_mem hmem] at htakes
    exact htakes.check
  have hmissing : missing? forms entries = none := by
    rw [missing?, Option.map_eq_none_iff, List.find?_eq_none]
    intro form hform hlacks
    have htakes := hfields form hform
    rw [Bool.and_eq_true, Bool.not_eq_true', Option.isNone_iff_eq_none] at hlacks
    rw [hlacks.2] at htakes
    cases htakes with
    | absent hoptional => exact absurd (hoptional.symm.trans hlacks.1) (by simp)
  simp only [record, hentries, hmissing, Option.or_none]

/-- An object in which one field has a value that fails, and every other field is taken, is refused
for that value. -/
theorem record_of_failing {form : FieldForm} {value : Json} {problem : DecodeError}
    (hnodup : (forms.map FieldForm.name).Nodup) (hform : form ∈ forms)
    (hvalue : Entries.get? entries form.name = some value)
    (hfails : form.check value = .error problem)
    (hothers : ∀ other ∈ forms, other.name ≠ form.name →
      other.Takes (Entries.get? entries other.name)) :
    record name forms build (.object entries) = .error problem := by
  have hproblem : entryProblem? forms [] entries = some problem := by
    apply entryProblem?_of_failing hnodup hform hfails hascending (Entries.mem_of_get? hvalue)
      (fun _ _ => List.not_mem_nil)
    rintro ⟨key, held⟩ hmem hne other hother rfl
    have htakes := hothers other hother hne
    rw [hascending.get?_of_mem hmem] at htakes
    exact htakes.check
  simp only [record, hproblem, Option.some_or]

end Record

section Known

def isKnown (forms : List FieldForm) (key : String) : Bool := forms.any fun form => form.name == key

theorem isKnown_of_mem {form : FieldForm} (h : form ∈ forms) : isKnown forms form.name = true :=
  List.any_eq_true.mpr ⟨form, h, beq_self_eq_true _⟩

theorem isKnown_eq_isSome (key : String) :
    isKnown forms key = (forms.find? fun form => form.name == key).isSome := by
  rw [isKnown, List.isSome_find?]

theorem entryProblem?_filter (seen : List String) (entries : Entries) :
    entryProblem? forms seen (entries.filter fun entry => isKnown forms entry.1) =
      entryProblem? forms seen entries := by
  induction entries generalizing seen with
  | nil => rfl
  | cons entry rest ih =>
    obtain ⟨key, value⟩ := entry
    have hkey : isKnown forms key = (forms.find? fun form => form.name == key).isSome :=
      isKnown_eq_isSome key
    cases hfind : forms.find? fun form => form.name == key with
    | none =>
      rw [hfind] at hkey
      rw [List.filter_cons, if_neg (by simp [hkey]), ih, entryProblem?, hfind]
    | some form =>
      rw [hfind, Option.isSome_some] at hkey
      rw [List.filter_cons, if_pos hkey, entryProblem?, entryProblem?, hfind]
      simp only [ih]

theorem missing?_congr {other : Entries}
    (h : ∀ form ∈ forms, Entries.get? entries form.name = Entries.get? other form.name) :
    missing? forms entries = missing? forms other := by
  rw [missing?, missing?]
  congr 1
  apply List.find?_congr
  intro form hform
  rw [h form hform]

/-- What stands under names that are no fields does not count, as long as the record is built of
its fields. -/
theorem record_congr {name : String} {build : (String → Option Json) → Except DecodeError α}
    {other : Entries} (hascending : entries.Ascending) (hother : other.Ascending)
    (hbuild : ∀ slot slot', (∀ form ∈ forms, slot form.name = slot' form.name) →
      build slot = build slot')
    (h : ∀ form ∈ forms, Entries.get? entries form.name = Entries.get? other form.name) :
    record name forms build (.object entries) = record name forms build (.object other) := by
  have hknown : (entries.filter fun entry => isKnown forms entry.1) =
      other.filter fun entry => isKnown forms entry.1 := by
    apply Entries.Ascending.ext (hascending.filter _) (hother.filter _)
    intro key
    rw [Entries.get?_filter, Entries.get?_filter]
    split
    · rename_i hkey
      obtain ⟨form, hform, hname⟩ := List.any_eq_true.mp hkey
      obtain rfl := eq_of_beq hname
      exact h form hform
    · rfl
  have hproblem : entryProblem? forms [] entries = entryProblem? forms [] other := by
    rw [← entryProblem?_filter, hknown, entryProblem?_filter]
  simp only [record, hproblem, missing?_congr h, hbuild _ _ h]

end Known

section Slot

variable {name : String} {read : Json → Except DecodeError α} {slot : Option Json}

theorem exists_of_map_eq_ok {value : Json} (h : (read value).map (fun _ => ()) = .ok ()) :
    ∃ a, read value = .ok a := by
  cases hread : read value with
  | error problem =>
    rw [hread] at h
    exact absurd h (by simp [Except.map])
  | ok a => exact ⟨a, rfl⟩

theorem exists_of_takes_required (h : (FieldForm.required name read).Takes slot) :
    ∃ a, required name read slot = .ok a := by
  cases h with
  | value hcheck => exact exists_of_map_eq_ok hcheck
  | absent hoptional => exact nomatch hoptional

theorem exists_of_takes_defaulted (h : (FieldForm.defaulted name read).Takes slot) (default : α) :
    ∃ a, orElse default read slot = .ok a := by
  cases h with
  | value hcheck => exact exists_of_map_eq_ok hcheck
  | absent => exact ⟨default, rfl⟩

theorem takes_of_required {a : α} (h : required name read slot = .ok a) :
    (FieldForm.required name read).Takes slot := by
  cases slot with
  | none => exact nomatch h
  | some value =>
    have hread : read value = .ok a := h
    exact .value (congrArg (Except.map fun _ => ()) hread)

theorem takes_of_orElse {default a : α} (h : orElse default read slot = .ok a) :
    (FieldForm.defaulted name read).Takes slot := by
  cases slot with
  | none => exact .absent rfl
  | some value =>
    have hread : read value = .ok a := h
    exact .value (congrArg (Except.map fun _ => ()) hread)

end Slot

section Check

variable {name : String} {read : Json → Except DecodeError α} {value : Json} {a : α}
variable {slot : Option Json}

theorem check_required (h : read value = .ok a) :
    (FieldForm.required name read).check value = .ok () :=
  congrArg (Except.map fun _ => ()) h

theorem check_defaulted (h : read value = .ok a) :
    (FieldForm.defaulted name read).check value = .ok () :=
  congrArg (Except.map fun _ => ()) h

theorem takes_required (hslot : slot = some value) (h : read value = .ok a) :
    (FieldForm.required name read).Takes slot := by
  rw [hslot]
  exact .value (check_required h)

theorem takes_defaulted (hslot : slot = some value) (h : read value = .ok a) :
    (FieldForm.defaulted name read).Takes slot := by
  rw [hslot]
  exact .value (check_defaulted h)

end Check

/-! ## Values -/

theorem signed_ofInt64 (n : Int64) : signed (.number (.ofInt64 n)) = .ok n := by
  have hlt : n.toInt < 0x8000000000000000 := n.toInt_lt
  simp only [signed, JsonNumber.ofInt64, hlt, if_true, Int64.ofInt_toInt]

theorem float_ofBinary64 (x : Binary64.Finite) :
    float (.ofBinary64 (.finite x)) = .ok (.finite x) := rfl

theorem list_map {read : Json → Except DecodeError α} {write : α → Json} {values : List α}
    (h : ∀ a ∈ values, read (write a) = .ok a) :
    list read (.array (values.map write)) = .ok values := by
  rw [list]
  induction values with
  | nil => rfl
  | cons a rest ih =>
    obtain ⟨ha, hrest⟩ := List.forall_mem_cons.mp h
    rw [List.map_cons, List.mapM_cons, ha, ih hrest]
    rfl

end Decode

end RecordQuery
