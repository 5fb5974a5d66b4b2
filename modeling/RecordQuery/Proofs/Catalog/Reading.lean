import RecordQuery.Proofs.Catalog.Written

/-!
# Items field by field

An item is read from an object as the values under the names of its fields are read one by one, and
what else stands in the object does not count. A field that is written and read again is the same
one, so that a value may be replaced by what its field was written as.
-/

namespace RecordQuery

namespace Decode

variable {α : Type} {read : Json → Except DecodeError α} {a b : α}

/-- A value that was read and written again may be what a second reading starts from. -/
theorem read_replaced {take : Option Json → Except DecodeError α}
    {slot written replaced result : Option Json} (hslot : take slot = .ok a)
    (hwritten : take written = .ok a) (hreplaced : take replaced = .ok b)
    (h : result = replaced ∨ replaced = written ∧ result = slot) : take result = .ok b := by
  rcases h with rfl | ⟨rfl, rfl⟩
  · exact hreplaced
  · rw [hwritten] at hreplaced
    rwa [hslot]

theorem write_eq (write : α → Json) (hread : read (write a) = .ok a)
    (h : read (write a) = .ok b) : write b = write a := by
  rw [hread] at h
  exact congrArg write (Except.ok.inj h).symm

theorem ofBinary64_eq {x y : Binary64} (h : float (.ofBinary64 x) = .ok y) :
    Json.ofBinary64 y = .ofBinary64 x := by
  cases x with
  | finite x => exact write_eq Json.ofBinary64 (float_ofBinary64 x) h
  | nan => exact nomatch h
  | infinite negative => exact nomatch h

section Slot

variable {name : String} {default : α} {slot : Option Json} {value written : Json}
variable (hslot : slot = some value) (hwritten : read value = .ok a → written = value)
include hslot hwritten

theorem some_eq_of_required (h : required name read slot = .ok a) : some written = slot := by
  rw [hslot] at h ⊢
  exact congrArg some (hwritten h)

theorem some_eq_of_orElse (h : orElse default read slot = .ok a) : some written = slot := by
  rw [hslot] at h ⊢
  exact congrArg some (hwritten h)

end Slot

end Decode

namespace Catalog.Item

/-- The values under the names of the fields are read as those of the item. -/
structure Reads (slot : String → Option Json) (item : Item) : Prop where
  id : Decode.orElse 0 Decode.unsigned (slot "id") = .ok item.id
  sku : Decode.required "sku" Decode.text (slot "sku") = .ok item.sku
  name : Decode.required "name" Decode.text (slot "name") = .ok item.name
  price : Decode.required "price" Decode.float (slot "price") = .ok item.price
  stock : Decode.orElse 0 Decode.signed (slot "stock") = .ok item.stock
  active : Decode.orElse false Decode.bool (slot "active") = .ok item.active
  createdAt : Decode.orElse "" Decode.text (slot "created_at") = .ok item.createdAt
  category : Decode.orElse none (Decode.optional (Lineage.decode categoryForm))
    (slot "category") = .ok item.category
  tags : Decode.orElse [] (Decode.list Tag.decode) (slot "tags") = .ok item.tags

theorem build_eq_ok_iff {slot : String → Option Json} {item : Item} :
    build slot = .ok item ↔ Reads slot item := by
  constructor
  · intro h
    unfold build at h
    obtain ⟨id, hid, h⟩ := Decode.exists_of_bind_eq_ok h
    obtain ⟨sku, hsku, h⟩ := Decode.exists_of_bind_eq_ok h
    obtain ⟨name, hname, h⟩ := Decode.exists_of_bind_eq_ok h
    obtain ⟨price, hprice, h⟩ := Decode.exists_of_bind_eq_ok h
    obtain ⟨stock, hstock, h⟩ := Decode.exists_of_bind_eq_ok h
    obtain ⟨active, hactive, h⟩ := Decode.exists_of_bind_eq_ok h
    obtain ⟨createdAt, hcreated, h⟩ := Decode.exists_of_bind_eq_ok h
    obtain ⟨category, hcategory, h⟩ := Decode.exists_of_bind_eq_ok h
    obtain ⟨tags, htags, h⟩ := Decode.exists_of_bind_eq_ok h
    obtain rfl := Except.ok.inj h
    exact ⟨hid, hsku, hname, hprice, hstock, hactive, hcreated, hcategory, htags⟩
  · intro h
    unfold build
    rw [h.id, h.sku, h.name, h.price, h.stock, h.active, h.createdAt, h.category, h.tags]
    rfl

theorem build_congr (slot slot' : String → Option Json)
    (h : ∀ form ∈ forms, slot form.name = slot' form.name) : build slot = build slot' := by
  simp only [forms, List.forall_mem_cons, Decode.FieldForm.name_required,
    Decode.FieldForm.name_defaulted] at h
  obtain ⟨hid, hsku, hname, hprice, hstock, hactive, hcreated, hcategory, htags, _⟩ := h
  unfold build
  rw [hid, hsku, hname, hprice, hstock, hactive, hcreated, hcategory, htags]

/-- Two objects that agree under the names of the fields are read alike. -/
theorem decode_congr {entries other : Entries} (hascending : entries.Ascending)
    (hother : other.Ascending)
    (h : ∀ form ∈ forms, Entries.get? entries form.name = Entries.get? other form.name) :
    decode (.object entries) = decode (.object other) :=
  Decode.record_congr hascending hother build_congr h

namespace Reads

variable {slot : String → Option Json} {item : Item}

theorem takes (h : Reads slot item) : ∀ form ∈ forms, form.Takes (slot form.name) := by
  simp only [forms, List.forall_mem_cons]
  exact ⟨Decode.takes_of_orElse h.id, Decode.takes_of_required h.sku,
    Decode.takes_of_required h.name, Decode.takes_of_required h.price,
    Decode.takes_of_orElse h.stock, Decode.takes_of_orElse h.active,
    Decode.takes_of_orElse h.createdAt, Decode.takes_of_orElse h.category,
    Decode.takes_of_orElse h.tags, List.forall_mem_nil _⟩

theorem priced (h : Reads slot item) : item.Priced := priced_of_build (build_eq_ok_iff.mpr h)

end Reads

/-- An item is read from an object exactly where its fields are. -/
theorem decode_eq_ok_iff {entries : Entries} (hascending : entries.Ascending) {item : Item} :
    decode (.object entries) = .ok item ↔ Reads (Entries.get? entries) item := by
  constructor
  · intro h
    exact build_eq_ok_iff.mp (Decode.build_of_record h)
  · intro h
    rw [decode, Decode.record_of_takes hascending h.takes]
    exact build_eq_ok_iff.mpr h

/-! ## Written fields -/

section Written

variable (item : Item)

theorem slots_encode : Slots item.encode.get? item.id item := by
  have hslot {key : String} {value : Json} (hmem : (key, value) ∈ item.entries) :
      item.encode.get? key = some value := Entries.get?_sorted_of_mem item.nodup_keys hmem
  constructor <;> exact hslot (by simp [entries])

theorem get?_encode_of_unknown {key : String} (h : Decode.isKnown forms key = false) :
    item.encode.get? key = none := by
  have hkey : key ∉ item.entries.map Prod.fst := by
    intro hmem
    have hnames : item.entries.map Prod.fst = forms.map Decode.FieldForm.name := rfl
    rw [hnames] at hmem
    obtain ⟨form, hform, rfl⟩ := List.mem_map.mp hmem
    exact absurd ((Decode.isKnown_of_mem hform).symm.trans h) (by simp)
  exact Entries.get?_overlay_of_absent hkey []

end Written

theorem reads_encode {item : Item} (h : item.Priced) : Reads item.encode.get? item := by
  obtain ⟨x, hprice⟩ := h
  exact build_eq_ok_iff.mp (item.slots_encode.build hprice)

namespace Reads

variable {slot replaced result : String → Option Json} {item next : Item}

/-- In a reading that starts from the fields of an item, these may be replaced by the values that
the item was read from. -/
theorem replace (h : Reads slot item) (hnext : Reads replaced next)
    (hresult : ∀ key, result key = replaced key ∨
      replaced key = item.encode.get? key ∧ result key = slot key) : Reads result next := by
  have hwritten := reads_encode h.priced
  constructor
  · exact Decode.read_replaced h.id hwritten.id hnext.id (hresult "id")
  · exact Decode.read_replaced h.sku hwritten.sku hnext.sku (hresult "sku")
  · exact Decode.read_replaced h.name hwritten.name hnext.name (hresult "name")
  · exact Decode.read_replaced h.price hwritten.price hnext.price (hresult "price")
  · exact Decode.read_replaced h.stock hwritten.stock hnext.stock (hresult "stock")
  · exact Decode.read_replaced h.active hwritten.active hnext.active (hresult "active")
  · exact Decode.read_replaced h.createdAt hwritten.createdAt hnext.createdAt
      (hresult "created_at")
  · exact Decode.read_replaced h.category hwritten.category hnext.category (hresult "category")
  · exact Decode.read_replaced h.tags hwritten.tags hnext.tags (hresult "tags")

/-- An item that is read from a field of another one has that field. -/
theorem get?_encode (h : Reads slot item) {other : Item} {key : String}
    (hslot : slot key = other.encode.get? key) :
    item.encode.get? key = other.encode.get? key := by
  cases hknown : Decode.isKnown forms key with
  | false => rw [get?_encode_of_unknown _ hknown, get?_encode_of_unknown _ hknown]
  | true =>
    obtain ⟨form, hform, hname⟩ := List.any_eq_true.mp hknown
    obtain rfl := eq_of_beq hname
    have hitem := item.slots_encode
    have hother := other.slots_encode
    refine Eq.trans ?_ hslot
    simp only [forms, List.mem_cons, List.not_mem_nil, or_false] at hform
    rcases hform with rfl | rfl | rfl | rfl | rfl | rfl | rfl | rfl | rfl
    · exact hitem.id.trans (Decode.some_eq_of_orElse (hslot.trans hother.id)
        (Decode.write_eq (fun n => .number (.ofUInt64 n)) (Decode.unsigned_ofUInt64 _)) h.id)
    · exact hitem.sku.trans (Decode.some_eq_of_required (hslot.trans hother.sku)
        (Decode.write_eq Json.string rfl) h.sku)
    · exact hitem.name.trans (Decode.some_eq_of_required (hslot.trans hother.name)
        (Decode.write_eq Json.string rfl) h.name)
    · exact hitem.price.trans (Decode.some_eq_of_required (hslot.trans hother.price)
        Decode.ofBinary64_eq h.price)
    · exact hitem.stock.trans (Decode.some_eq_of_orElse (hslot.trans hother.stock)
        (Decode.write_eq (fun n => .number (.ofInt64 n)) (Decode.signed_ofInt64 _)) h.stock)
    · exact hitem.active.trans (Decode.some_eq_of_orElse (hslot.trans hother.active)
        (Decode.write_eq Json.bool rfl) h.active)
    · exact hitem.createdAt.trans (Decode.some_eq_of_orElse (hslot.trans hother.createdAt)
        (Decode.write_eq Json.string rfl) h.createdAt)
    · exact hitem.category.trans (Decode.some_eq_of_orElse (hslot.trans hother.category)
        (Decode.write_eq
          (fun category => .ofOption (Option.map (Lineage.encode categoryForm) category))
          (optional_category _)) h.category)
    · exact hitem.tags.trans (Decode.some_eq_of_orElse (hslot.trans hother.tags)
        (Decode.write_eq (fun tags => .array (List.map Tag.encode tags)) (list_tags _)) h.tags)

end Reads

end Catalog.Item

end RecordQuery
