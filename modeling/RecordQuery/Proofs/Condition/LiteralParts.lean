import RecordQuery.Proofs.Condition.TextForms
import RecordQuery.Proofs.Text.Lower

/-!
# Parts of a text and the conditions that ask for them

A part that stands in a text, at its start, at its end or inside, is found there by the condition
for such a part, unless a capital sigma ends a word in one of the part and the text alone.
-/

namespace RecordQuery.Condition

open Text (SigmaDiffers lowerChars lowerWithin)

/-- The lowercase form of the part stands in that of the text at a place where the part does not
stand in the text. -/
def StandsElsewhere (part text : List Char) : Prop :=
  ∃ front back, lowerChars text = front ++ (lowerChars part ++ back) ∧
    ∀ before after, text = before ++ (part ++ after) → front.length ≠ (lowerChars before).length

variable {before part after front back : List Char} {type : FieldType}

/-- At a place where the part stands in a text, its lowercase form stands in that of the text
exactly if its sigmas have the same form there. -/
theorem stands_iff (hlength : front.length = (lowerChars before).length) :
    (∃ back, lowerChars (before ++ (part ++ after)) = front ++ (lowerChars part ++ back)) ↔
      lowerWithin [] before (part ++ after) = front ∧ ¬SigmaDiffers before part after := by
  rw [Text.lowerChars_append, ← Text.lowerWithin_eq_lowerChars_iff]
  constructor
  · rintro ⟨back, h⟩
    obtain ⟨hfront, hrest⟩ := List.append_inj h
      ((Text.length_lowerWithin _ _ _).trans hlength.symm)
    obtain ⟨hpart, _⟩ := List.append_inj hrest (Text.length_lowerWithin _ _ _)
    exact ⟨hfront, hpart⟩
  · rintro ⟨hfront, hpart⟩
    exact ⟨_, by rw [hfront, hpart]⟩

theorem holds_startsWith_iff {part text : String} (h : text.toList = part.toList ++ after) :
    (startsWith part).holds (.text text) = true ↔ ¬SigmaDiffers [] part.toList after := by
  have hstands : (∃ back, lowerChars ([] ++ (part.toList ++ after)) =
      [] ++ (lowerChars part.toList ++ back)) ↔ _ := stands_iff rfl
  simp only [List.nil_append, ← h, lowerWithin, true_and] at hstands
  rw [← hstands]
  exact (holds_between_iff false true part text).trans (by simp)

theorem holds_endsWith_iff {part text : String} (h : text.toList = before ++ part.toList) :
    (endsWith part).holds (.text text) = true ↔ ¬SigmaDiffers before part.toList [] := by
  have hlower : lowerChars text.toList =
      lowerWithin [] before part.toList ++ lowerWithin before.reverse part.toList [] := by
    have hparts := Text.lowerChars_append before part.toList []
    rwa [List.append_nil, Text.lowerFrom, List.append_nil, ← h] at hparts
  rw [← Text.lowerWithin_eq_lowerChars_iff]
  constructor
  · intro hholds
    obtain ⟨front, back, hstands, _, hback⟩ := (holds_between_iff true false part text).mp hholds
    rw [hback rfl, List.append_nil, hlower] at hstands
    exact (List.append_inj' hstands (Text.length_lowerWithin _ _ _)).2
  · intro hpart
    apply (holds_between_iff true false part text).mpr
    exact ⟨lowerWithin [] before part.toList, [], by rw [hlower, hpart, List.append_nil],
      by simp, fun _ => rfl⟩

theorem holds_contains_iff (part text : String) :
    (contains part).holds (.text text) = true ↔
      (∃ before after, text.toList = before ++ (part.toList ++ after) ∧
        ¬SigmaDiffers before part.toList after) ∨
      StandsElsewhere part.toList text.toList := by
  have hholds : (contains part).holds (.text text) = true ↔
      ∃ front back, lowerChars text.toList = front ++ (lowerChars part.toList ++ back) :=
    (holds_between_iff true true part text).trans (by simp)
  rw [hholds]
  constructor
  · rintro ⟨front, back, hlower⟩
    by_cases hplace : ∃ before after, text.toList = before ++ (part.toList ++ after) ∧
        front.length = (lowerChars before).length
    · obtain ⟨before, after, htext, hlength⟩ := hplace
      rw [htext] at hlower
      exact Or.inl ⟨before, after, htext, ((stands_iff hlength).mp ⟨back, hlower⟩).2⟩
    · exact Or.inr ⟨front, back, hlower, fun before after htext hlength =>
        hplace ⟨before, after, htext, hlength⟩⟩
  · rintro (⟨before, after, htext, hsigma⟩ | ⟨front, back, hlower, _⟩)
    · rw [htext]
      exact ⟨_, (stands_iff (Text.length_lowerWithin _ _ _)).mpr ⟨rfl, hsigma⟩⟩
    · exact ⟨front, back, hlower⟩

/-- A part that stands at the start or at the end of a text is found there exactly if each of its
capital sigmas ends a word in both or in neither of the part and the text. A part that stands inside
is found if that is so at one of its places, and otherwise only by way of the lowercase form of
another part of the text. -/
theorem literal_part_found_iff [RegexLibrary] (htype : type.isTextual = true) {part : String}
    (hne : part ≠ "") (hstar : '*' ∉ part.toList) (text : String) :
    (∃ condition, classify type (part ++ "*") = .ok condition ∧
      ∀ after, text.toList = part.toList ++ after →
        (condition.holds (.text text) = true ↔ ¬SigmaDiffers [] part.toList after)) ∧
    (∃ condition, classify type ("*" ++ part) = .ok condition ∧
      ∀ before, text.toList = before ++ part.toList →
        (condition.holds (.text text) = true ↔ ¬SigmaDiffers before part.toList [])) ∧
    ∃ condition, classify type ("*" ++ part ++ "*") = .ok condition ∧
      (condition.holds (.text text) = true ↔
        (∃ before after, text.toList = before ++ (part.toList ++ after) ∧
          ¬SigmaDiffers before part.toList after) ∨
        StandsElsewhere part.toList text.toList) := by
  have hnil : part.toList ≠ [] := by simpa using hne
  have hread (m n : Nat) {raw : String}
      (hraw : raw.toList = List.replicate m '*' ++ (part.toList ++ List.replicate n '*')) :
      classify type raw = .ok (between (0 < m) (0 < n) part) := by
    rw [classify_of_isTextual htype, ← String.ofList_toList (s := raw), hraw,
      ofText_between m n hstar hnil, String.ofList_toList]
  refine ⟨⟨_, hread 0 1 (by simp), fun after h => ?_⟩, ⟨_, hread 1 0 (by simp), fun before h => ?_⟩,
    ⟨_, hread 1 1 (by simp), ?_⟩⟩
  · exact holds_startsWith_iff h
  · exact holds_endsWith_iff h
  · exact holds_contains_iff part text

/-- The sigma ends the first word of the text and the only one of the part. -/
theorem literal_part_found_iff_of_last_sigma :
    letI : RegexLibrary := .permissive
    FieldType.isTextual .datetime = true ∧ "ΟΣ" ≠ "" ∧ '*' ∉ "ΟΣ".toList ∧
      "ΟΣ ΔΟΣΗ".toList = "ΟΣ".toList ++ " ΔΟΣΗ".toList ∧
      ∃ condition, classify .datetime "ΟΣ*" = .ok condition ∧
        condition.holds (.text "ΟΣ ΔΟΣΗ") = true := by
  let : RegexLibrary := .permissive
  have htype : FieldType.isTextual .datetime = true := rfl
  have hne : "ΟΣ" ≠ "" := by decide
  have hstar : '*' ∉ "ΟΣ".toList := by decide
  have htext : "ΟΣ ΔΟΣΗ".toList = "ΟΣ".toList ++ " ΔΟΣΗ".toList := by decide
  have hsigma : ¬SigmaDiffers [] "ΟΣ".toList " ΔΟΣΗ".toList :=
    Text.lowerWithin_eq_lowerChars_iff.mp (by set_option maxRecDepth 2000 in decide)
  obtain ⟨⟨condition, hread, hholds⟩, _⟩ := literal_part_found_iff htype hne hstar "ΟΣ ΔΟΣΗ"
  exact ⟨htype, hne, hstar, htext, condition, hread, (hholds _ htext).mpr hsigma⟩

/-- The text starts with the part, whose sigma ends it and stands inside the text. -/
theorem part_with_sigma_not_found :
    letI : RegexLibrary := .permissive
    "ΑΣ" ≠ "" ∧ '*' ∉ "ΑΣ".toList ∧ "ΑΣΑ".toList = "ΑΣ".toList ++ ['Α'] ∧
      classify .text "ΑΣ*" = .ok (startsWith "ΑΣ") ∧
      (startsWith "ΑΣ").holds (.text "ΑΣΑ") = false := by
  let : RegexLibrary := .permissive
  refine ⟨by decide, by decide, by decide, rfl, ?_⟩
  set_option maxRecDepth 2000 in decide

end RecordQuery.Condition
