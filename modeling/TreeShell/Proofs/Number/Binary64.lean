import Mathlib.Algebra.Order.Field.Rat
import Mathlib.Algebra.Order.Field.Power
import TreeShell.Number.Binary64

namespace TreeShell.Binary64

theorem roundDiv_mul (quotient : Nat) {den : Nat} (positive : 0 < den) :
    roundDiv (quotient * den) den = quotient := by
  unfold roundDiv
  dsimp only
  rw [Nat.mul_mod_left, Nat.mul_zero, if_pos positive, Nat.mul_div_cancel _ positive]

theorem scaled_twoPow (high low : Nat) :
    ∃ den, 0 < den ∧
      scaled (Nat.pow 2 high) (Nat.pow 2 low) (high - low - 52) = (Nat.pow 2 52 * den, den) := by
  unfold scaled
  by_cases large : low + 52 ≤ high
  · have up : ((high : Int) - low - 52).toNat = high - (low + 52) := by omega
    have whole : Nat.pow 2 high = Nat.pow 2 52 * (Nat.pow 2 low * Nat.pow 2 (high - (low + 52))) := by
      show 2 ^ high = 2 ^ 52 * (2 ^ low * 2 ^ (high - (low + 52)))
      rw [← Nat.pow_add, ← Nat.pow_add]
      congr 1
      omega
    refine ⟨Nat.pow 2 low * Nat.pow 2 (high - (low + 52)), ?_, ?_⟩
    · exact Nat.mul_pos (Nat.pow_pos (by decide)) (Nat.pow_pos (by decide))
    · rw [if_pos (by omega), up, ← whole]
  · have down : (-((high : Int) - low - 52)).toNat = low + 52 - high := by omega
    have whole : Nat.pow 2 high * Nat.pow 2 (low + 52 - high) = Nat.pow 2 52 * Nat.pow 2 low := by
      show 2 ^ high * 2 ^ (low + 52 - high) = 2 ^ 52 * 2 ^ low
      rw [← Nat.pow_add, ← Nat.pow_add]
      congr 1
      omega
    refine ⟨Nat.pow 2 low, Nat.pow_pos (by decide), ?_⟩
    rw [if_neg (by omega), down, whole]

theorem fitExponent_twoPow (high low : Nat) :
    fitExponent (Nat.pow 2 high) (Nat.pow 2 low) = max minExponent (high - low - 52) := by
  obtain ⟨den, positive, same⟩ := scaled_twoPow high low
  have guess : ((Nat.pow 2 high).log2 : Int) - (Nat.pow 2 low).log2 - ((precision : Nat) - 1) =
      high - low - 52 := by
    show ((2 ^ high).log2 : Int) - (2 ^ low).log2 - 52 = high - low - 52
    rw [Nat.log2_two_pow, Nat.log2_two_pow]
  have full : ¬ Nat.pow 2 52 * den / den < Nat.pow 2 (precision - 1) := by
    rw [Nat.mul_div_cancel _ positive]
    exact Nat.lt_irrefl _
  unfold fitExponent
  dsimp only
  rw [guess, same]
  dsimp only
  rw [if_neg full]

theorem ofRatio_twoPow {high low : Nat} (normal : minExponent ≤ (high : Int) - low - 52) :
    ofRatio false (Nat.pow 2 high) (Nat.pow 2 low) =
      if maxExponent < (high : Int) - low - 52 then infinite false
      else finite false (Nat.pow 2 52) (high - low - 52) := by
  obtain ⟨den, positive, same⟩ := scaled_twoPow high low
  have filled : Nat.pow 2 high ≠ 0 := Nat.ne_of_gt (Nat.pow_pos (by decide))
  have single : Nat.pow 2 52 ≠ Nat.pow 2 precision := by decide
  unfold ofRatio
  rw [if_neg filled, fitExponent_twoPow, max_eq_right normal]
  dsimp only
  rw [same]
  dsimp only
  rw [roundDiv_mul _ positive]
  simp only [if_neg single]

theorem ofScaled_twoPow {power : Nat} {exponent : Int}
    (normal : minExponent ≤ power + exponent - 52) (inRange : power + exponent - 52 ≤ maxExponent) :
    ofScaled false (Nat.pow 2 power) exponent =
      finite false (Nat.pow 2 52) (power + exponent - 52) := by
  unfold ofScaled ratio
  by_cases whole : 0 ≤ exponent
  · have join : Nat.pow 2 power * Nat.pow 2 exponent.toNat = Nat.pow 2 (power + exponent.toNat) :=
      (Nat.pow_add 2 power exponent.toNat).symm
    have same : ((power + exponent.toNat : Nat) : Int) - (0 : Nat) - 52 = power + exponent - 52 := by
      omega
    have exact := @ofRatio_twoPow (power + exponent.toNat) 0 (by rwa [same])
    rw [same, if_neg (Int.not_lt.mpr inRange)] at exact
    rw [if_pos whole, join]
    exact exact
  · have same : (power : Int) - ((-exponent).toNat : Nat) - 52 = power + exponent - 52 := by omega
    have exact := @ofRatio_twoPow power (-exponent).toNat (by rwa [same])
    rw [same, if_neg (Int.not_lt.mpr inRange)] at exact
    rw [if_neg whole]
    exact exact

theorem ofInt?_twoPow (power : Nat) :
    ofInt? (Nat.pow 2 power : Nat) =
      if power ≤ 1023 then some (finite false (Nat.pow 2 52) (power - 52)) else none := by
  have positive : ¬ ((Nat.pow 2 power : Nat) : Int) < 0 := by omega
  have normal : minExponent ≤ (power : Int) - (0 : Nat) - 52 := by
    rw [minExponent]
    omega
  have rounded := @ofRatio_twoPow power 0 normal
  rw [show Nat.pow 2 0 = 1 from rfl] at rounded
  unfold ofInt?
  rw [decide_eq_false positive, Int.natAbs_natCast, rounded]
  by_cases bounded : power ≤ 1023
  · have inRange : ¬ maxExponent < (power : Int) - (0 : Nat) - 52 := by
      rw [maxExponent]
      omega
    rw [if_pos bounded, if_neg inRange]
    simp
  · have outside : maxExponent < (power : Int) - (0 : Nat) - 52 := by
      rw [maxExponent]
      omega
    rw [if_neg bounded, if_pos outside]

/-- What a sign, a mantissa and an exponent are worth. -/
def worth (negative : Bool) (mantissa : Nat) (exponent : Int) : ℚ :=
  (if negative then -1 else 1) * mantissa * 2 ^ exponent

def value? : Binary64 → Option ℚ
  | finite negative mantissa exponent => some (worth negative mantissa exponent)
  | _ => none

theorem worth_eq_ratio (negative : Bool) (mantissa : Nat) (exponent : Int) :
    0 < (signedRatio negative mantissa exponent).2 ∧
      worth negative mantissa exponent =
        (signedRatio negative mantissa exponent).1 / (signedRatio negative mantissa exponent).2 := by
  have sign (magnitude : Nat) : ((if negative then -(magnitude : Int) else magnitude : Int) : ℚ) =
      (if negative then -1 else 1) * magnitude := by
    cases negative <;> simp
  unfold signedRatio ratio worth
  by_cases whole : 0 ≤ exponent
  · have power : (2 : ℚ) ^ exponent = ((Nat.pow 2 exponent.toNat : Nat) : ℚ) := by
      conv_lhs => rw [← Int.toNat_of_nonneg whole]
      rw [zpow_natCast]
      exact (Nat.cast_pow 2 exponent.toNat).symm
    rw [if_pos whole]
    dsimp only
    rw [sign, power, Nat.cast_mul, Nat.cast_one, div_one, mul_assoc]
    exact ⟨Nat.one_pos, rfl⟩
  · have power : (2 : ℚ) ^ exponent = ((Nat.pow 2 (-exponent).toNat : Nat) : ℚ)⁻¹ := by
      have opposite : exponent = -((-exponent).toNat : Int) := by omega
      conv_lhs => rw [opposite]
      rw [zpow_neg, zpow_natCast]
      exact congrArg _ (Nat.cast_pow 2 (-exponent).toNat).symm
    rw [if_neg whole]
    dsimp only
    rw [sign, power, div_eq_mul_inv]
    exact ⟨Nat.pow_pos (by decide), rfl⟩

theorem lt_iff_value {x y : Binary64} {a b : ℚ} (left : x.value? = some a)
    (right : y.value? = some b) : x.lt y ↔ a < b := by
  cases x with
  | finite s m e =>
    cases y with
    | finite t n f =>
      obtain ⟨first, worthFirst⟩ := worth_eq_ratio s m e
      obtain ⟨second, worthSecond⟩ := worth_eq_ratio t n f
      rw [← Option.some.inj left, ← Option.some.inj right, worthFirst, worthSecond, lt,
        decide_eq_true_eq, div_lt_div_iff₀ (by exact_mod_cast first) (by exact_mod_cast second)]
      exact_mod_cast Iff.rfl
    | infinite t => cases right
    | nan => cases right
  | infinite s => cases left
  | nan => cases left

end TreeShell.Binary64
