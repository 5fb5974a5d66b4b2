import RecordQuery.Catalog.Item
import RecordQuery.FieldRules

/-!
# Rules of a catalog

What a payload for an item has to hold. Its category may be given by number; the number has to be
that of a category that some item has, or of a category above one of those.
-/

namespace RecordQuery.Catalog

def fieldRules : FieldRules where
  schema := Item.schema
  required := ["sku", "name", "price"]
  readOnly := ["id", "tags"]
  nullable := ["category"]

/-- The categories of the items and those above them, in the order in which they are met. -/
def categories (items : List Item) : List Category :=
  items.flatMap fun item =>
    match item.category with
    | some category => category.chain
    | none => []

/-- The first category with the number that the text is. -/
def category? (known : List Category) (raw : String) : Option Category :=
  (Digits.readUInt64? raw.toList).bind fun id => known.find? fun category => category.id == id

/-- The complaint about a number that no category has. -/
def unknownCategory (raw : String) : FieldErrors :=
  FieldErrors.empty.add "category"
    ("Invalid pk \"" ++ raw ++ "\" - object does not exist.")

/-- The text of a category given by number; other values stand for themselves. -/
def categoryKey? : Json → Option String
  | .number n => some n.text
  | .string s => some (Text.trim s)
  | _ => none

/-- Puts the category in the place of its number. -/
def resolveCategory (known : List Category) (clean : Entries) : Except FieldErrors Entries :=
  match (Entries.get? clean "category").bind categoryKey? with
  | none => .ok clean
  | some raw =>
    match category? known raw with
    | some category =>
      .ok (Entries.insert "category" (category.encode categoryForm) clean)
    | none => .error (unknownCategory raw)

def validator (known : List Category) : Validator := fun payload partially =>
  match fieldRules.validate payload partially with
  | .ok (.object clean) => (resolveCategory known clean).map Json.object
  | other => other

end RecordQuery.Catalog
