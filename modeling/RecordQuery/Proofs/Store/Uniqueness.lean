import Mathlib.Control.Monad.Basic
import RecordQuery.Proofs.Json.Equality
import RecordQuery.Proofs.Store.Numbering
import RecordQuery.Sample.Gadget

/-!
# Unique fields

A write is refused when the payload names a value that another record holds in a unique field. What
is compared is the payload, before it is read as a record. So the records stay apart in the unique
fields as long as no accepted write slips: holds a taken value that its payload did not name, or
named in another form.
-/

namespace RecordQuery.Table

variable {R : Type} [Storable R]

/-- No two records hold the same value, null apart, in a unique field. -/
def Distinct (table : Table R) : Prop :=
  ∀ field ∈ table.unique, ∀ a ∈ table.rows, ∀ b ∈ table.rows, a.1 ≠ b.1 →
    ∀ v w, (Storable.encode a.2).get? field = some v → (Storable.encode b.2).get? field = some w →
      v.isNull = false → v.same w = false

/-! ## The check of a write -/

section Check

variable {table : Table R} {id : UInt64} {field : String}

theorem isTaken_iff {wanted : Json} :
    table.isTaken id field wanted = true ↔ ∃ row ∈ table.rows, row.1 ≠ id ∧
      ∃ value, (Storable.encode row.2).get? field = some value ∧ value.same wanted = true := by
  rw [isTaken, List.any_eq_true]
  refine exists_congr fun row => and_congr_right fun _ => ?_
  rw [Bool.and_eq_true, bne_iff_ne]
  refine and_congr_right fun _ => ?_
  cases (Storable.encode row.2).get? field with
  | none => simp
  | some value => simp

theorem isTaken_congr {v w : Json} (h : v.same w = true) :
    table.isTaken id field v = table.isTaken id field w := by
  unfold isTaken
  congr 1
  funext row
  cases (Storable.encode row.2).get? field with
  | none => rfl
  | some value => simp only [value.same_comm v, value.same_comm w, Json.same_congr h]

theorem conflict?_eq_none_iff {entries : Entries} :
    table.conflict? id entries = none ↔ ∀ field ∈ table.unique, ∀ wanted,
      Entries.get? entries field = some wanted → wanted.isNull = false →
      table.isTaken id field wanted = false := by
  rw [conflict?, List.find?_eq_none]
  refine forall₂_congr fun field _ => ?_
  cases Entries.get? entries field with
  | none => simp
  | some wanted => cases wanted.isNull <;> simp

end Check

/-- Putting in a record keeps the records apart if none of its values in a unique field is
taken. -/
theorem Distinct.put {table : Table R} (h : table.Distinct) {id counter : UInt64} {record : R}
    (hfree : ∀ field ∈ table.unique, ∀ value, (Storable.encode record).get? field = some value →
      value.isNull = false → table.isTaken id field value = false) :
    Distinct { table with rows := Rows.insert id record table.rows, nextId := counter } := by
  have hother : ∀ field ∈ table.unique, ∀ b ∈ table.rows, b.1 ≠ id → ∀ v w,
      (Storable.encode record).get? field = some v → (Storable.encode b.2).get? field = some w →
      v.isNull = false → v.same w = false := by
    intro field hfield b hb hne v w hv hw hnull
    cases hsame : v.same w with
    | false => rfl
    | true =>
      have htaken : table.isTaken id field v = true :=
        isTaken_iff.mpr ⟨b, hb, hne, w, hw, (w.same_comm v).trans hsame⟩
      exact absurd ((hfree field hfield v hv hnull).symm.trans htaken) (by simp)
  intro field hfield a ha b hb hne v w hv hw hnull
  rcases Rows.mem_insert ha with rfl | ha
  · rcases Rows.mem_insert hb with rfl | hb
    · exact absurd rfl hne
    · exact hother field hfield b hb (Ne.symm hne) v w hv hw hnull
  · rcases Rows.mem_insert hb with rfl | hb
    · cases hsame : v.same w with
      | false => rfl
      | true =>
        have hnull' : w.isNull = false := (Json.isNull_eq_of_same hsame).symm.trans hnull
        have hback := hother field hfield a ha hne w v hw hv hnull'
        exact absurd ((v.same_comm w).symm.trans hsame) (by simp [hback])
    · exact h field hfield a ha b hb hne v w hv hw hnull

namespace Call

/-- The call is accepted and writes a record, read from these entries, under this number. -/
inductive Writes (table : Table R) : Call R → UInt64 → Entries → R → Prop where
  | create {entries : Entries} {record : R}
      (hmade : table.materialize table.nextId entries = .ok record) :
      Writes table (create (.object entries)) table.nextId entries record
  | update {id : UInt64} {current record : R} {entries changes : Entries}
      (hfind : table.find id = some current)
      (hobject : Storable.encode current = .object entries)
      (hmade : table.materialize id (Entries.overlay entries changes) = .ok record) :
      Writes table (update id (.object changes)) id (Entries.overlay entries changes) record

/-- An accepted write whose record holds in a unique field what another record holds there, though
the entries that were checked do not. -/
def Slips (table : Table R) (call : Call R) : Prop :=
  ∃ id entries record, Writes table call id entries record ∧
    ∃ field ∈ table.unique, ∃ value,
      (Storable.encode record).get? field = some value ∧ value.isNull = false ∧
      table.isTaken id field value = true ∧
      ∀ checked, Entries.get? (table.stamped id entries) field = some checked →
        checked.same value = false

section Step

variable {table : Table R} {call : Call R} {id : UInt64} {entries : Entries} {record : R}

theorem Writes.materialize (h : Writes table call id entries record) :
    table.materialize id entries = .ok record := by
  cases h with
  | create hmade => exact hmade
  | update _ _ hmade => exact hmade

theorem Writes.rows_run (h : Writes table call id entries record) :
    (run table call).rows = Rows.insert id record table.rows := by
  cases h with
  | create hmade => simp only [run, Table.create, entriesOf, hmade]
  | update hfind hobject hmade =>
    simp only [run, Table.update, entriesOf, hfind, hobject, hmade]

/-- A write that does not slip puts in no value that is taken. -/
theorem Writes.isTaken_eq_false (h : Writes table call id entries record)
    (hslip : ¬ Slips table call) {field : String} (hfield : field ∈ table.unique) {value : Json}
    (hvalue : (Storable.encode record).get? field = some value) (hnull : value.isNull = false) :
    table.isTaken id field value = false := by
  cases htaken : table.isTaken id field value with
  | false => rfl
  | true =>
    refine absurd ⟨id, entries, record, h, field, hfield, value, hvalue, hnull, htaken, ?_⟩ hslip
    intro checked hchecked
    cases hsame : checked.same value with
    | false => rfl
    | true =>
      have hfree := conflict?_eq_none_iff.mp (materialize_eq_ok_iff.mp h.materialize).1 field
        hfield checked hchecked ((Json.isNull_eq_of_same hsame).trans hnull)
      rw [isTaken_congr hsame, htaken] at hfree
      exact absurd hfree (by simp)

theorem Makes.distinct {after : Table R} (hmakes : Makes table call after) (h : table.Distinct)
    (hcall : ∀ record, call ≠ insert record) (hslip : ¬ Slips table call) : after.Distinct := by
  cases hmakes with
  | unchanged => exact h
  | spent | inserted => exact absurd rfl (hcall _)
  | created hmade =>
    apply Distinct.put h
    intro field hfield value
    exact (Writes.create hmade).isTaken_eq_false hslip hfield
  | updated hfind hobject hmade =>
    apply Distinct.put h
    intro field hfield value
    exact (Writes.update hfind hobject hmade).isTaken_eq_false hslip hfield
  | deleted =>
    intro field hfield a ha b hb
    exact h field hfield a (Rows.mem_of_mem_erase ha) b (Rows.mem_of_mem_erase hb)

/-- After a write that slips two records hold the same value. -/
theorem not_distinct_run (hslip : Slips table call) : ¬ (run table call).Distinct := by
  obtain ⟨id, entries, record, hwrites, field, hfield, value, hvalue, hnull, htaken, _⟩ := hslip
  obtain ⟨row, hrow, hne, other, hother, hsame⟩ := isTaken_iff.mp htaken
  intro h
  have hunique := (makes_run table call).fields.2
  have hapart := h field (hunique ▸ hfield) (id, record)
    (hwrites.rows_run ▸ Rows.mem_insert_self id record table.rows) row
    (hwrites.rows_run ▸ Rows.mem_insert_of_ne hrow hne record) (Ne.symm hne) value other hvalue
    hother hnull
  rw [Json.same_comm, hsame] at hapart
  exact absurd hapart (by simp)

end Step

end Call

open Table.Call

/-- The records of a table that starts empty stay apart in the unique fields, whatever is created,
updated and deleted, as long as no accepted write slips, and no longer. -/
theorem distinct_iff_no_slip (idField : String) (unique : List String) {calls : List (Call R)}
    (hcalls : ∀ record, Call.insert record ∉ calls) :
    let state := after calls (declared idField unique)
    (∀ n, (state n).Distinct) ↔ ∀ n, ∀ call ∈ calls[n]?, ¬ Slips (state n) call := by
  intro state
  constructor
  · intro h n call hcall hslip
    have hsucc : state (n + 1) = run (state n) call := after_succ hcall
    exact not_distinct_run hslip (hsucc ▸ h (n + 1))
  · intro h
    apply after_induction
    · rw [declared_eq]
      intro field _ a ha
      exact absurd ha List.not_mem_nil
    · intro n call hcall hdistinct
      apply (makes_run _ call).distinct hdistinct
      · rintro record rfl
        exact hcalls record (List.mem_of_getElem? hcall)
      · exact h n call hcall

/-! ## Gadgets -/

def gadget (id : UInt64) (name : String) (weight : Option Binary64) : Sample.Gadget :=
  { id, name, count := 0, weight, price := none, active := none, madeAt := none, owner := none,
    parts := [] }

/-- Two gadgets are created without a count. Both get the same one, which neither payload names. -/
theorem distinct_iff_no_slip_of_equal_counts :
    let calls : List (Call Sample.Gadget) :=
      [.create (.object [("name", .string "lamp")]), .create (.object [("name", .string "desk")])]
    let state := after calls (declared "id" ["count"])
    (∀ record, Call.insert record ∉ calls) ∧
      Slips (state 1) (.create (.object [("name", .string "desk")])) ∧
      ¬ ∀ n, (state n).Distinct := by
  intro calls state
  have hcalls : ∀ record, Call.insert record ∉ calls := by
    intro record hmem
    simp [calls] at hmem
  have hmade : (state 1).materialize (state 1).nextId [("name", .string "desk")] =
      .ok (gadget 2 "desk" none) := by decide
  have hslip : Slips (state 1) (.create (.object [("name", .string "desk")])) := by
    refine ⟨_, _, _, .create hmade, "count", by decide, .number (.ofInt64 0), ?_, rfl,
      by decide, ?_⟩
    · simp [gadget, Storable.encode, Sample.Gadget.encode, Json.ofEntries, Entries.sorted,
        Entries.overlay, Json.get?, Entries.get?_insert]
    · intro checked hchecked
      have hnone : (Entries.get? ((state 1).stamped (state 1).nextId
        [("name", .string "desk")]) "count").isNone = true := by decide
      rw [hchecked] at hnone
      exact absurd hnone (by simp)
  refine ⟨hcalls, hslip, ?_⟩
  intro hdistinct
  exact (distinct_iff_no_slip "id" ["count"] hcalls).mp hdistinct 1 _ rfl hslip

/-- One payload is accepted twice although it names the weight, which is unique: the payload names
a whole number and the record that is there holds a floating-point one. -/
theorem equal_weights_accepted :
    let payload : Json := .object [("name", .string "lamp"), ("weight", .ofInt 1)]
    let calls : List (Call Sample.Gadget) := [.create payload, .create payload]
    let state := after calls (declared "id" ["weight"])
    (state 2).rows = [(1, gadget 1 "lamp" (some (.ofInt 1))),
        (2, gadget 2 "lamp" (some (.ofInt 1)))] ∧
      ¬ (state 2).Distinct := by
  intro payload calls state
  have hrows : (state 2).rows = [(1, gadget 1 "lamp" (some (.ofInt 1))),
      (2, gadget 2 "lamp" (some (.ofInt 1)))] := by decide +kernel
  have hunique : (state 2).unique = ["weight"] := by decide +kernel
  have hweight (id : UInt64) :
      (Storable.encode (gadget id "lamp" (some (.ofInt 1)))).get? "weight" =
        some (.ofBinary64 (.ofInt 1)) := by
    simp [gadget, Storable.encode, Sample.Gadget.encode, Json.ofEntries, Entries.sorted,
      Entries.overlay, Json.get?, Entries.get?_insert, Json.ofOption]
  refine ⟨hrows, ?_⟩
  intro h
  have hapart := h "weight" (by rw [hunique]; exact List.mem_singleton_self _)
    (1, gadget 1 "lamp" (some (.ofInt 1))) (by rw [hrows]; exact List.mem_cons_self)
    (2, gadget 2 "lamp" (some (.ofInt 1)))
    (by rw [hrows]; exact List.mem_cons_of_mem _ (List.mem_singleton_self _)) (by decide)
    _ _ (hweight 1) (hweight 2) (by decide +kernel)
  have hsame : (Json.ofBinary64 (.ofInt 1)).same (.ofBinary64 (.ofInt 1)) = true := by
    decide +kernel
  exact absurd (hsame.symm.trans hapart) (by simp)

end RecordQuery.Table
