import TreeShell.Proofs.Text.Units
import TreeShell.Text.LowerCase

namespace TreeShell.Text

def isSettled (c : Char) : Bool := lowerChar c == c && c != 'İ' && c != capitalSigma

theorem isSettled_lowered_ascii : ∀ code < 128, isSettled (Char.ofNat code).toLower := by
  decide +kernel

namespace CaseTable.LowerRun

def reach (run : LowerRun) (code : Nat) : Nat := Int.toNat (code + run.shift)

def leaves (run other : LowerRun) : Bool :=
  Nat.blt (run.reach run.last) other.first || Nat.blt other.last (run.reach run.first) ||
    (run.stride == 2 || run.first == run.last) && other.stride == 2 &&
      (run.reach run.first + other.first) % 2 == 1

def isSound (run : LowerRun) : Bool :=
  (128 ≤ run.first + run.shift || 97 ≤ run.first + run.shift && run.last + run.shift ≤ 122) &&
    (run.last + run.shift < 0x0130 || 0x0130 < run.first + run.shift &&
      (run.last + run.shift < 0xD800 || 0xE000 ≤ run.first + run.shift &&
        run.last + run.shift < 0x110000))

theorem not_covers_of_leaves {run other : LowerRun} (sound : run.isSound)
    (leaves : run.leaves other) {code : Nat} (covered : run.covers code) :
    ¬ other.covers (Int.toNat (code + run.shift)) := by
  simp only [isSound, LowerRun.leaves, reach, covers, Nat.blt_eq, Bool.or_eq_true,
    Bool.and_eq_true, decide_eq_true_eq, beq_iff_eq] at sound leaves covered ⊢
  obtain ⟨⟨low, high⟩, step⟩ := covered
  rintro ⟨⟨otherLow, otherHigh⟩, otherStep⟩
  rcases leaves with (before | after) | ⟨⟨stride | single, otherStride⟩, turns⟩
  · omega
  · omega
  · rw [stride] at step
    rw [otherStride] at otherStep
    omega
  · rw [otherStride] at otherStep
    omega

end CaseTable.LowerRun

theorem lowerRuns_isSound : CaseTable.lowerRuns.all CaseTable.LowerRun.isSound := by
  decide +kernel

theorem lowerRuns_leaves :
    CaseTable.lowerRuns.all fun run => CaseTable.lowerRuns.all run.leaves := by
  decide +kernel

theorem isSettled_of_isLower {c : Char} (small : 97 ≤ c.toNat ∧ c.toNat ≤ 122) : isSettled c := by
  have table : ∀ code < 123, 97 ≤ code → isSettled (Char.ofNat code) := by decide
  have settled := table c.toNat (by omega) small.1
  rwa [Char.ofNat_toNat] at settled

theorem isSettled_of_covers {run : CaseTable.LowerRun} (member : run ∈ CaseTable.lowerRuns)
    {code : Nat} (covered : run.covers code) :
    isSettled (Char.ofNat (Int.toNat (code + run.shift))) := by
  have sound := List.all_eq_true.mp lowerRuns_isSound run member
  have uncovered (other : CaseTable.LowerRun) (listed : other ∈ CaseTable.lowerRuns) :=
    CaseTable.LowerRun.not_covers_of_leaves sound
      (List.all_eq_true.mp (List.all_eq_true.mp lowerRuns_leaves run member) other listed) covered
  simp only [CaseTable.LowerRun.isSound, CaseTable.LowerRun.covers, Bool.or_eq_true,
    Bool.and_eq_true, decide_eq_true_eq] at sound covered
  obtain ⟨⟨low, high⟩, _⟩ := covered
  have valid : (Int.toNat (code + run.shift)).isValidChar := by
    unfold Nat.isValidChar
    omega
  have same := toNat_ofNat valid
  by_cases ascii : (Int.toNat (code + run.shift)) < 128
  · apply isSettled_of_isLower
    rw [same]
    omega
  have plain : Char.ofNat (Int.toNat (code + run.shift)) ≠ 'İ' := by
    intro dotted
    rw [dotted] at same
    have code : 'İ'.toNat = 0x0130 := by decide
    omega
  have other : Char.ofNat (Int.toNat (code + run.shift)) ≠ capitalSigma := by
    intro sigma
    rw [sigma] at same
    have listed : ∃ run ∈ CaseTable.lowerRuns, run.covers capitalSigma.toNat := by decide
    obtain ⟨own, listed, covers⟩ := listed
    exact uncovered own listed (same ▸ covers)
  have none : CaseTable.lowerRuns.find? (·.covers (Int.toNat (code + run.shift))) = none :=
    List.find?_eq_none.mpr uncovered
  simp [isSettled, lowerChar, same, ascii, none, plain, other]

theorem isSettled_lowerChar {c : Char} (plain : c ≠ 'İ') (other : c ≠ capitalSigma) :
    isSettled (lowerChar c) := by
  by_cases ascii : c.toNat < 128
  · have lowered := isSettled_lowered_ascii c.toNat ascii
    rw [Char.ofNat_toNat] at lowered
    rwa [lowerChar, if_pos ascii]
  cases found : CaseTable.lowerRuns.find? (·.covers c.toNat) with
  | none =>
    have same : lowerChar c = c := by simp [lowerChar, ascii, found]
    simp [isSettled, same, plain, other]
  | some run =>
    have covered := List.find?_some found
    simp only [lowerChar, if_neg ascii, found]
    exact isSettled_of_covers (List.mem_of_find?_eq_some found) covered

theorem lowerChars_eq_nil_iff {before text : List Char} :
    lowerChars before text = [] ↔ text = [] := by
  cases text with
  | nil => simp [lowerChars]
  | cons c rest =>
    rw [lowerChars]
    split
    · simp
    · split <;> simp

theorem lower_ne_empty {text : String} (filled : text ≠ "") : lower text ≠ "" := by
  simpa [lower, lowerChars_eq_nil_iff] using filled

theorem isSettled_of_mem_lowerChars {before text : List Char} :
    ∀ c ∈ lowerChars before text, isSettled c := by
  induction text generalizing before with
  | nil => simp [lowerChars]
  | cons first rest ih =>
    intro c member
    rw [lowerChars] at member
    rcases List.mem_append.mp member with lowered | later
    · split at lowered
      · have dotted : isSettled 'i' ∧ isSettled '\u0307' := by decide
        simp only [List.mem_cons, List.not_mem_nil, or_false] at lowered
        rcases lowered with rfl | rfl
        · exact dotted.1
        · exact dotted.2
      · rename_i plain
        split at lowered
        · have sigmas : isSettled 'ς' ∧ isSettled 'σ' := by decide
          rw [List.mem_singleton.mp lowered, lowerSigma]
          split
          · exact sigmas.1
          · exact sigmas.2
        · rename_i other
          rw [List.mem_singleton.mp lowered]
          exact isSettled_lowerChar plain other
    · exact ih c later

theorem lowerChars_of_isSettled {before text : List Char} (settled : ∀ c ∈ text, isSettled c) :
    lowerChars before text = text := by
  induction text generalizing before with
  | nil => rfl
  | cons first rest ih =>
    have here := settled first (List.mem_cons_self ..)
    simp only [isSettled, Bool.and_eq_true, beq_iff_eq, bne_iff_ne] at here
    obtain ⟨⟨same, plain⟩, other⟩ := here
    rw [lowerChars, if_neg plain, if_neg other, same,
      ih fun c member => settled c (List.mem_cons_of_mem _ member)]
    rfl

theorem lower_lower (text : String) : lower (lower text) = lower text := by
  have settled : lowerChars [] (lowerChars [] text.toList) = lowerChars [] text.toList :=
    lowerChars_of_isSettled isSettled_of_mem_lowerChars
  rw [lower, lower, String.toList_ofList, settled]

end TreeShell.Text
