import RecordQuery.Proofs.Catalog.Reading
import RecordQuery.Proofs.Store.Uniqueness

/-!
# Updates of items

Two updates of an item are one, with the second payload laid over the first. The first of them reads
and writes the item in between, which changes the form of its values but not what is read from
them, and checks the unique fields of its own payload, which the single update checks again. An
update is settled by the fields that its payload names.
-/

namespace RecordQuery

theorem Rows.insert_insert {R : Type} (id : UInt64) (first second : R)
    (rows : List (UInt64 × R)) :
    insert id second (insert id first rows) = insert id second rows := by
  induction rows with
  | nil => exact if_pos rfl
  | cons row rest ih =>
    obtain ⟨i, r⟩ := row
    by_cases heq : id = i
    · simp only [insert, heq, if_true]
    · by_cases hlt : id < i
      · simp only [insert, heq, hlt, if_true, if_false]
      · simp only [insert, heq, hlt, if_false, ih]

namespace Table

variable {R : Type} [Storable R] {table : Table R} {id : UInt64} {record : R}

/-- What is taken by others does not depend on the record itself. -/
theorem isTaken_put {field : String} {wanted : Json} :
    isTaken { table with rows := Rows.insert id record table.rows } id field wanted =
      table.isTaken id field wanted := by
  apply Bool.eq_iff_iff.mpr
  rw [isTaken_iff, isTaken_iff]
  constructor
  · rintro ⟨row, hrow, hne, hvalue⟩
    rcases Rows.mem_insert hrow with rfl | hrow
    · exact absurd rfl hne
    · exact ⟨row, hrow, hne, hvalue⟩
  · rintro ⟨row, hrow, hne, hvalue⟩
    exact ⟨row, Rows.mem_insert_of_ne hrow hne record, hne, hvalue⟩

theorem conflict?_put (entries : Entries) :
    conflict? { table with rows := Rows.insert id record table.rows } id entries =
      table.conflict? id entries := by
  simp only [conflict?, isTaken_put]

theorem materialize_congr {entries other : Entries}
    (hconflict : table.conflict? id (table.stamped id entries) =
      table.conflict? id (table.stamped id other))
    (hread : (Storable.decode (.object (table.stamped id entries)) : Except DecodeError R) =
      Storable.decode (.object (table.stamped id other))) :
    table.materialize id entries = table.materialize id other := by
  unfold stamped at hconflict hread
  simp only [materialize, hconflict, hread]

theorem update_congr {current : R} {entries changes other : Entries}
    (hfind : table.find id = some current) (hobject : Storable.encode current = .object entries)
    (h : table.materialize id (Entries.overlay entries changes) =
      table.materialize id (Entries.overlay entries other)) :
    update id (.object changes) table = update id (.object other) table := by
  simp only [update, entriesOf, hfind, hobject, h]

theorem update_of_ok {payload : Json} (h : (update id payload table).1 = .ok record) :
    update id payload table =
      (.ok record, { table with rows := Rows.insert id record table.rows }) := by
  rcases update_cases id payload table with ⟨_, _, heq⟩ | ⟨_, _, _, made, _, _, _, _, heq⟩
  · rw [heq] at h
    exact nomatch h
  · rw [heq] at h ⊢
    obtain rfl : made = record := Except.ok.inj h
    rfl

end Table

namespace Catalog

open Table (update update_of_ok)

/-- The entries that an update of an item is read from: the payload laid over the item, with the
number in its field. -/
def laid (table : Table Item) (id : UInt64) (current : Item) (changes : Entries) : Entries :=
  table.stamped id (Entries.overlay current.entries.sorted changes)

section Laid

variable {table : Table Item} {id : UInt64} {current item : Item} {changes : Entries}

theorem ascending_laid : (laid table id current changes).Ascending :=
  ((Entries.ascending_sorted _).overlay _).insert _ _

theorem get?_laid (h : changes.Ascending) (key : String) :
    Entries.get? (laid table id current changes) key =
      if key = table.idField then some (.number (.ofUInt64 id))
      else (Entries.get? changes key).or (current.encode.get? key) := by
  rw [laid, Table.stamped, Entries.get?_insert, Entries.get?_overlay h]
  rfl

/-- The item carries its number, should the key be that of the number. -/
def NumberedUnder (table : Table Item) (id : UInt64) (current : Item) (key : String) : Prop :=
  key = table.idField → current.encode.get? key = some (.number (.ofUInt64 id))

theorem get?_laid_of_absent (h : changes.Ascending) {key : String}
    (hnumbered : NumberedUnder table id current key) (habsent : Entries.get? changes key = none) :
    Entries.get? (laid table id current changes) key = current.encode.get? key := by
  rw [get?_laid h]
  split
  · rename_i heq
    exact (hnumbered heq).symm
  · rw [habsent, Option.none_or]

/-- An update succeeds exactly where no unique value is taken and an item can be read. -/
theorem update_eq_ok_iff (hfind : table.find id = some current) :
    (update id (.object changes) table).1 = .ok item ↔
      table.conflict? id (laid table id current changes) = none ∧
      Item.Reads (Entries.get? (laid table id current changes)) item := by
  rw [Table.update_fst hfind rfl, Table.materialize_eq_ok_iff]
  exact and_congr_right fun _ => Item.decode_eq_ok_iff ascending_laid

/-- A field that the payload of an update does not name is left as it is. -/
theorem get?_encode_of_update (hfind : table.find id = some current) (hchanges : changes.Ascending)
    (h : (update id (.object changes) table).1 = .ok item) {key : String}
    (hnumbered : NumberedUnder table id current key) (habsent : Entries.get? changes key = none) :
    item.encode.get? key = current.encode.get? key := by
  obtain ⟨_, hreads⟩ := (update_eq_ok_iff hfind).mp h
  exact hreads.get?_encode (get?_laid_of_absent hchanges hnumbered habsent)

end Laid

/-! ## Two updates -/

section Twice

variable {table : Table Item} {id : UInt64} {current first second : Item} {p q : Entries}

/-- What stands under a key after both payloads were laid over the item: what is there for the
second update, unless that one finds a field of the item in between, whose value is then from the
first update. -/
theorem get?_laid_overlay (hp : p.Ascending) (hq : q.Ascending) {middle : Table Item}
    (hidField : middle.idField = table.idField) (key : String) :
    Entries.get? (laid table id current (Entries.overlay p q)) key =
        Entries.get? (laid middle id first q) key ∨
      Entries.get? (laid middle id first q) key = first.encode.get? key ∧
        Entries.get? (laid table id current (Entries.overlay p q)) key =
          Entries.get? (laid table id current p) key := by
  rw [get?_laid (hp.overlay q), get?_laid hq, get?_laid hp, Entries.get?_overlay hq, hidField]
  by_cases hkey : key = table.idField
  · left
    rw [if_pos hkey, if_pos hkey]
  · rw [if_neg hkey, if_neg hkey, if_neg hkey]
    cases Entries.get? q key with
    | some value =>
      left
      rw [Option.some_or, Option.some_or, Option.some_or]
    | none =>
      right
      rw [Option.none_or, Option.none_or]
      exact ⟨rfl, rfl⟩

variable (hfind : table.find id = some current) (hp : p.Ascending)
variable (hfirst : (update id (.object p) table).1 = .ok first)
include hfind hp hfirst

theorem update_overlay (hq : q.Ascending)
    (hsecond : (update id (.object q) (update id (.object p) table).2).1 = .ok second) :
    update id (.object (Entries.overlay p q)) table =
      update id (.object q) (update id (.object p) table).2 := by
  have hmiddle := Table.find_update hfirst
  rw [update_of_ok hfirst] at hmiddle hsecond ⊢
  obtain ⟨hfree, hreads⟩ := (update_eq_ok_iff hfind).mp hfirst
  obtain ⟨hfreeAfter, hreadsAfter⟩ := (update_eq_ok_iff hmiddle).mp hsecond
  rw [Table.conflict?_put] at hfreeAfter
  have hslots := @get?_laid_overlay table id current first p q hp hq
    { table with rows := Rows.insert id first table.rows } rfl
  have hmade : (update id (.object (Entries.overlay p q)) table).1 = .ok second := by
    refine (update_eq_ok_iff hfind).mpr ⟨?_, hreads.replace hreadsAfter hslots⟩
    rw [Table.conflict?_eq_none_iff] at hfree hfreeAfter ⊢
    intro field hfield wanted hwanted
    rcases hslots field with heq | ⟨_, heq⟩
    · exact hfreeAfter field hfield wanted (heq.symm.trans hwanted)
    · exact hfree field hfield wanted (heq.symm.trans hwanted)
  rw [update_of_ok hmade, update_of_ok hsecond]
  simp only [Rows.insert_insert]

/-- The second time an update finds under each key what it found the first time. -/
theorem update_again :
    update id (.object p) (update id (.object p) table).2 = update id (.object p) table := by
  have hmiddle := Table.find_update hfirst
  have hsame : laid (update id (.object p) table).2 id first p = laid table id current p := by
    apply ascending_laid.ext ascending_laid
    intro key
    have hidField : (update id (.object p) table).2.idField = table.idField := by
      rw [update_of_ok hfirst]
    rw [get?_laid hp, get?_laid hp, hidField]
    split
    · rfl
    · rename_i hkey
      cases hnamed : Entries.get? p key with
      | some value => rw [Option.some_or, Option.some_or]
      | none =>
        rw [Option.none_or, Option.none_or]
        have hnumbered : NumberedUnder table id current key := fun heq => absurd heq hkey
        exact get?_encode_of_update hfind hp hfirst hnumbered hnamed
  have hmade : (update id (.object p) (update id (.object p) table).2).1 = .ok first := by
    obtain ⟨hfree, hreads⟩ := (update_eq_ok_iff hfind).mp hfirst
    rw [update_eq_ok_iff hmiddle, hsame]
    refine ⟨?_, hreads⟩
    rw [update_of_ok hfirst, Table.conflict?_put]
    exact hfree
  rw [update_of_ok hmade, update_of_ok hfirst]
  simp only [Rows.insert_insert]

end Twice

/-! ## What counts in a payload -/

/-- The changes of a payload that count: those of fields of an item, its number apart. -/
def relevant (idField : String) (changes : Entries) : Entries :=
  changes.filter fun change => Decode.isKnown Item.forms change.1 && change.1 != idField

section Relevant

variable {table : Table Item} {id : UInt64} {entries other : Entries}

theorem isTaken_of_unknown {field : String} (h : Decode.isKnown Item.forms field = false)
    (wanted : Json) : table.isTaken id field wanted = false := by
  apply Bool.eq_false_iff.mpr
  intro htaken
  obtain ⟨row, _, _, value, hvalue, _⟩ := Table.isTaken_iff.mp htaken
  exact absurd (hvalue.symm.trans (row.2.get?_encode_of_unknown h)) (by simp)

theorem conflict?_congr (h : ∀ key, Decode.isKnown Item.forms key = true →
    Entries.get? entries key = Entries.get? other key) :
    table.conflict? id entries = table.conflict? id other := by
  unfold Table.conflict?
  apply List.find?_congr
  intro field _
  cases hknown : Decode.isKnown Item.forms field with
  | true => rw [h field hknown]
  | false =>
    simp only [isTaken_of_unknown hknown, Bool.and_false]
    cases Entries.get? entries field <;> cases Entries.get? other field <;> rfl

variable {current : Item} {changes : Entries}

/-- Keys that are no fields of an item, and a number in the payload, have no effect, whether the
update succeeds or fails. -/
theorem update_relevant (hfind : table.find id = some current) (hchanges : changes.Ascending) :
    update id (.object changes) table =
      update id (.object (relevant table.idField changes)) table := by
  have hrelevant : (relevant table.idField changes).Ascending := hchanges.filter _
  have hslots : ∀ key, Decode.isKnown Item.forms key = true →
      Entries.get? (laid table id current changes) key =
        Entries.get? (laid table id current (relevant table.idField changes)) key := by
    intro key hknown
    rw [get?_laid hchanges, get?_laid hrelevant]
    split
    · rfl
    · rename_i hkey
      have hkept : (Decode.isKnown Item.forms key && key != table.idField) = true := by
        rw [hknown, Bool.true_and, bne_iff_ne]
        exact hkey
      rw [relevant, Entries.get?_filter
        (fun key => Decode.isKnown Item.forms key && key != table.idField), if_pos hkept]
  apply Table.update_congr hfind rfl
  apply Table.materialize_congr
  · exact conflict?_congr hslots
  · apply Item.decode_congr ascending_laid ascending_laid
    intro form hform
    exact hslots form.name (Decode.isKnown_of_mem hform)

end Relevant

/-! ## Updates of a stored item -/

/-- Updates of a stored item compose. Two updates that succeed leave the same table as one with the
second payload laid over the first, and a field that neither names keeps its value, as does the
number where the item carries it; an update that succeeds changes nothing when it is made again; and
an update does with its payload what it does with the fields of an item in it, the number apart. -/
theorem updates_compose {table : Table Item} {id : UInt64} {current : Item}
    (hfind : table.find id = some current) {p q : Entries} (hp : p.Ascending) (hq : q.Ascending) :
    let middle := (update id (.object p) table).2
    (∀ first second, (update id (.object p) table).1 = .ok first →
      (update id (.object q) middle).1 = .ok second →
      update id (.object (Entries.overlay p q)) table = update id (.object q) middle ∧
        ∀ key, NumberedUnder table id current key →
          Entries.get? p key = none → Entries.get? q key = none →
            second.encode.get? key = current.encode.get? key) ∧
    (∀ first, (update id (.object p) table).1 = .ok first →
      update id (.object p) middle = update id (.object p) table) ∧
    update id (.object p) table = update id (.object (relevant table.idField p)) table := by
  intro middle
  refine ⟨?_, ?_, update_relevant hfind hp⟩
  · intro first second hfirst hsecond
    have hone : update id (.object (Entries.overlay p q)) table = update id (.object q) middle :=
      update_overlay hfind hp hfirst hq hsecond
    refine ⟨hone, ?_⟩
    intro key hnumbered hnotFirst hnotSecond
    have hmade : (update id (.object (Entries.overlay p q)) table).1 = .ok second := by
      rw [hone]
      exact hsecond
    apply get?_encode_of_update hfind (hp.overlay q) hmade hnumbered
    rw [Entries.get?_overlay hq, hnotSecond, Option.none_or, hnotFirst]
  · intro first hfirst
    exact update_again hfind hp hfirst

/-- The first payload gives a category with a key of its own, a number and a price; the second one
gives a name and a stock number. -/
theorem updates_compose_of_spare_part :
    let table : Table Item :=
      ⟨[(1, sparePart 1 "A-1"), (2, sparePart 2 "A-2")], 3, "id", ["sku"]⟩
    let p : Entries :=
      [("category", .object [("code", .null), ("id", .ofInt 7), ("name", .string "Tools")]),
        ("id", .ofInt 2), ("price", .ofInt 7)]
    let q : Entries := [("name", .string "bolt"), ("sku", .string "A-3")]
    let first : Item :=
      { sparePart 1 "A-1" with price := .ofInt 7, category := some (.top 7 "Tools") }
    let second : Item := { first with sku := "A-3", name := "bolt" }
    let middle := (update 1 (.object p) table).2
    table.find 1 = some (sparePart 1 "A-1") ∧ p.Ascending ∧ q.Ascending ∧
      (update 1 (.object p) table).1 = .ok first ∧ (update 1 (.object q) middle).1 = .ok second ∧
      update 1 (.object (Entries.overlay p q)) table = update 1 (.object q) middle ∧
      second.encode.get? "stock" = (sparePart 1 "A-1").encode.get? "stock" ∧
      update 1 (.object p) middle = update 1 (.object p) table ∧
      update 1 (.object p) table = update 1 (.object (relevant "id" p)) table := by
  intro table p q first second middle
  have hfind : table.find 1 = some (sparePart 1 "A-1") := by decide +kernel
  have hp : p.Ascending :=
    List.pairwise_map.mp (by decide : ["category", "id", "price"].Pairwise (· < ·))
  have hq : q.Ascending := List.pairwise_map.mp (by decide : ["name", "sku"].Pairwise (· < ·))
  have hfirst : (update 1 (.object p) table).1 = .ok first := by decide +kernel
  have hsecond : (update 1 (.object q) middle).1 = .ok second := by decide +kernel
  obtain ⟨hcompose, hagain, hrelevant⟩ := updates_compose hfind hp hq
  obtain ⟨hone, hkept⟩ := hcompose first second hfirst hsecond
  have hnumbered : NumberedUnder table 1 (sparePart 1 "A-1") "stock" := fun heq =>
    absurd heq (by decide)
  exact ⟨hfind, hp, hq, hfirst, hsecond, hone, hkept "stock" hnumbered rfl rfl,
    hagain first hfirst, hrelevant⟩

end Catalog

end RecordQuery
