import TreeShell.Json.Writer
import TreeShell.Proofs.Text.Units

namespace TreeShell

theorem Text.unwritable?_eq_none_iff {text : String} : unwritable? text = none ↔ Whole text := by
  simp [unwritable?, Whole]

namespace Json

def Whole (document : Json) : Prop := ∀ text ∈ document.texts, Text.Whole text

instance (document : Json) : Decidable document.Whole := List.decidableBAll _ document.texts

theorem unwritable?_eq_none_iff {document : Json} :
    document.unwritable? = none ↔ document.Whole := by
  simp [unwritable?, Whole, List.findSome?_eq_none_iff, Text.unwritable?_eq_none_iff]

theorem whole_string {text : String} : (string text).Whole ↔ Text.Whole text := by
  simp [Whole, texts]

theorem whole_bool (value : Bool) : (bool value).Whole := by simp [Whole, texts]

theorem whole_number (value : Number) : (number value).Whole := by simp [Whole, texts]

theorem whole_integer (value : Int) : (integer value).Whole := whole_number _

theorem whole_array {items : List Json} : (array items).Whole ↔ ∀ item ∈ items, item.Whole := by
  have inside (items : List Json) (text : String) :
      text ∈ textsOfItems items ↔ ∃ item ∈ items, text ∈ item.texts := by
    induction items with
    | nil => simp [textsOfItems]
    | cons item rest ih => simp [textsOfItems, ih]
  simp only [Whole, texts, inside]
  exact ⟨fun whole item member text here => whole text ⟨item, member, here⟩,
    fun whole text ⟨item, member, here⟩ => whole item member text here⟩

theorem whole_object {fields : List (String × Json)} :
    (object fields).Whole ↔ ∀ field ∈ fields, Text.Whole field.1 ∧ field.2.Whole := by
  have inside (fields : List (String × Json)) (text : String) :
      text ∈ textsOfFields fields ↔
        ∃ field ∈ fields, text = field.1 ∨ text ∈ field.2.texts := by
    induction fields with
    | nil => simp [textsOfFields]
    | cons field rest ih => simp [textsOfFields, ih, or_assoc]
  simp only [Whole, texts, inside]
  constructor
  · intro whole field member
    exact ⟨whole _ ⟨field, member, .inl rfl⟩, fun text here => whole text ⟨field, member, .inr here⟩⟩
  · rintro whole text ⟨field, member, rfl | here⟩
    · exact (whole field member).1
    · exact (whole field member).2 text here

end Json

end TreeShell
