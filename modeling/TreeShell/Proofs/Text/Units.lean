import TreeShell.Text.Units

namespace TreeShell.Text

theorem toNat_ofNat {code : Nat} (valid : code.isValidChar) : (Char.ofNat code).toNat = code := by
  rw [Char.ofNat, dif_pos valid]
  rfl

theorem isHalf_ofNat {place : Nat} (valid : place.isValidChar) :
    isHalf (Char.ofNat place) ↔ firstHalf ≤ place ∧ place < firstHalf + 0x800 := by
  simp only [isHalf, toNat_ofNat valid, Bool.and_eq_true, decide_eq_true_eq]

theorem isHalf_unit_iff {unit : Nat} :
    isHighHalf unit || isLowHalf unit ↔ 0xD800 ≤ unit ∧ unit < 0xE000 := by
  simp only [isHighHalf, isLowHalf, Bool.or_eq_true, Bool.and_eq_true, decide_eq_true_eq]
  omega

/-- A text keeps every unit, a half by itself included. -/
theorem code_unitChar {unit : Nat} (bounded : unit < 0x10000) : code (unitChar unit) = unit := by
  unfold unitChar code
  by_cases half : isHighHalf unit || isLowHalf unit
  · have bounds := isHalf_unit_iff.mp half
    have valid : (firstHalf + (unit - 0xD800)).isValidChar := by
      simp only [Nat.isValidChar, firstHalf]
      omega
    have stands : isHalf (Char.ofNat (firstHalf + (unit - 0xD800))) :=
      (isHalf_ofNat valid).mpr (by omega)
    rw [if_pos half, if_pos stands, toNat_ofNat valid]
    omega
  · have bounds : ¬ (0xD800 ≤ unit ∧ unit < 0xE000) := fun inside => half (isHalf_unit_iff.mpr inside)
    have valid : unit.isValidChar := by
      simp only [Nat.isValidChar]
      omega
    have itself : ¬ isHalf (Char.ofNat unit) := by
      rw [isHalf_ofNat valid, firstHalf]
      omega
    rw [if_neg half, if_neg itself, toNat_ofNat valid]

def Whole (text : String) : Prop := ∀ c ∈ text.toList, ¬ isHalf c

instance (text : String) : Decidable (Whole text) := List.decidableBAll _ text.toList

theorem not_isHalf_of_lt {c : Char} (small : c.toNat < firstHalf) : ¬ isHalf c := by
  simp only [isHalf, Bool.and_eq_true, decide_eq_true_eq]
  omega

theorem Whole.sublist {text whole : String} (all : Whole whole)
    (part : text.toList.Sublist whole.toList) : Whole text :=
  fun c member => all c (part.subset member)

theorem whole_append {left right : String} : Whole (left ++ right) ↔ Whole left ∧ Whole right := by
  simp only [Whole, String.toList_append, List.mem_append, or_imp, forall_and]

theorem whole_repr (count : Nat) : Whole count.repr := by
  intro c member
  rw [Nat.toList_repr] at member
  have digit := Nat.isDigit_of_mem_toDigits (by decide) (by decide) member
  have small : c.toNat ≤ 57 := Char.isDigit_iff_toNat.mp digit |>.2
  exact not_isHalf_of_lt (by rw [firstHalf]; omega)

theorem whole_int_repr (count : Int) : Whole count.repr := by
  cases count with
  | ofNat count => exact whole_repr count
  | negSucc count => exact whole_append.mpr ⟨by decide, whole_repr (count + 1)⟩

end TreeShell.Text
