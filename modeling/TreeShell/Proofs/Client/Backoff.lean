import TreeShell.Client.Backoff
import TreeShell.Proofs.Number.Binary64

namespace TreeShell

def Number.value? : Number → Option ℚ
  | integer value => some value
  | real value => value.value?

namespace Client.Backoff

def capped (attempt : Nat) : ℚ := min (1 / 2 * 2 ^ attempt) 30

theorem capped_mono {earlier attempt : Nat} (before : earlier ≤ attempt) :
    capped earlier ≤ capped attempt := by
  have doubled : (2 : ℚ) ^ earlier ≤ 2 ^ attempt := pow_le_pow_right₀ (by norm_num) before
  exact min_le_min_right 30 (mul_le_mul_of_nonneg_left doubled (by norm_num))

theorem capped_le (attempt : Nat) : capped attempt ≤ 30 := min_le_right _ _

theorem value?_limit : limit.value? = some 30 := by
  have rounded : limit = .finite false (30 * Nat.pow 2 48) (-48) := by decide +kernel
  rw [rounded, Binary64.value?, Binary64.worth]
  norm_num

theorem scaled_defaultBase {attempt : Nat} (told : attempt ≤ 1023) :
    scaled defaultBase attempt = .ok (.real (.finite false (Nat.pow 2 52) (attempt - 53))) := by
  have half : defaultBase = .real (.finite false (Nat.pow 2 52) (-53)) := by decide +kernel
  have doubled : float ((Nat.pow 2 (attempt : Int).toNat : Nat) : Int) =
      .ok (.finite false (Nat.pow 2 52) (attempt - 52)) := by
    rw [Int.toNat_natCast, float, Binary64.ofInt?_twoPow, if_pos told]
  have exponent : (104 : Nat) + (-53 + ((attempt : Int) - 52)) - 52 = attempt - 53 := by omega
  have product : Binary64.mul (.finite false (Nat.pow 2 52) (-53))
      (.finite false (Nat.pow 2 52) (attempt - 52)) =
        .finite false (Nat.pow 2 52) (attempt - 53) := by
    have exact := @Binary64.ofScaled_twoPow 104 (-53 + ((attempt : Int) - 52))
    rw [exponent, Binary64.minExponent, Binary64.maxExponent] at exact
    exact exact (by omega) (by omega)
  unfold scaled
  rw [if_pos (Int.natCast_nonneg attempt), half]
  dsimp only
  rw [doubled, Except.map, product]

theorem scaled_defaultBase_of_lt {attempt : Nat} (late : 1023 < attempt) :
    scaled defaultBase attempt = .error {} := by
  have overflow : float ((Nat.pow 2 (attempt : Int).toNat : Nat) : Int) = .error {} := by
    rw [Int.toNat_natCast, float, Binary64.ofInt?_twoPow, if_neg (Nat.not_le_of_lt late)]
  unfold scaled
  rw [if_pos (Int.natCast_nonneg attempt), defaultBase]
  dsimp only
  rw [overflow, Except.map]

theorem worth_doubled (attempt : Nat) :
    Binary64.worth false (Nat.pow 2 52) ((attempt : Int) - 53) = 1 / 2 * 2 ^ attempt := by
  have mantissa : ((Nat.pow 2 52 : Nat) : ℚ) = 2 ^ (52 : Int) := by norm_num
  rw [Binary64.worth, if_neg (by decide), one_mul, mantissa, ← zpow_add₀ (by norm_num)]
  have split : (52 : Int) + (attempt - 53) = -1 + (attempt : Int) := by omega
  rw [split, zpow_add₀ (by norm_num), zpow_natCast]
  norm_num

theorem exists_delay {attempt : Nat} (told : attempt ≤ 1023) :
    ∃ pause, delay defaultBase attempt = .ok pause ∧ pause.value? = some (capped attempt) := by
  have value : Binary64.value? (.finite false (Nat.pow 2 52) ((attempt : Int) - 53)) =
      some (1 / 2 * 2 ^ attempt) := congrArg some (worth_doubled attempt)
  have exceeding : exceeds (.real (.finite false (Nat.pow 2 52) ((attempt : Int) - 53))) ↔
      30 < (1 / 2 * 2 ^ attempt : ℚ) := Binary64.lt_iff_value value?_limit value
  unfold delay
  rw [scaled_defaultBase told]
  refine ⟨_, rfl, ?_⟩
  dsimp only
  by_cases long : 30 < (1 / 2 * 2 ^ attempt : ℚ)
  · rw [if_pos (exceeding.mpr long), capped, min_eq_right long.le]
    exact value?_limit
  · rw [if_neg (fun exceeded => long (exceeding.mp exceeded)), capped, min_eq_left (not_lt.mp long)]
    exact value

theorem delay_of_lt {attempt : Nat} (late : 1023 < attempt) :
    delay defaultBase attempt = .error {} := by
  rw [delay, scaled_defaultBase_of_lt late, Except.map]

theorem value?_of_delay {attempt : Nat} {pause : Number}
    (told : delay defaultBase attempt = .ok pause) :
    attempt ≤ 1023 ∧ pause.value? = some (capped attempt) := by
  by_cases inTime : attempt ≤ 1023
  · obtain ⟨same, found, value⟩ := exists_delay inTime
    rw [told, Except.ok.injEq] at found
    rw [found]
    exact ⟨inTime, value⟩
  · rw [delay_of_lt (Nat.lt_of_not_le inTime)] at told
    cases told

theorem delay_told_iff (attempt : Nat) :
    (∃ pause, delay defaultBase attempt = .ok pause) ↔ attempt ≤ 1023 := by
  constructor
  · rintro ⟨pause, told⟩
    exact (value?_of_delay told).1
  · intro inTime
    obtain ⟨pause, told, _⟩ := exists_delay inTime
    exact ⟨pause, told⟩

theorem delay_longest {attempt : Nat} {pause : Number}
    (told : delay defaultBase attempt = .ok pause) :
    ∃ seconds, pause.value? = some seconds ∧ seconds = min (1 / 2 * 2 ^ attempt) 30 ∧
      seconds ≤ 30 ∧ ∀ earlier ≤ attempt, ∃ before fewer,
        delay defaultBase earlier = .ok before ∧ before.value? = some fewer ∧
          fewer ≤ seconds := by
  obtain ⟨inTime, value⟩ := value?_of_delay told
  refine ⟨_, value, rfl, capped_le attempt, ?_⟩
  intro earlier before
  obtain ⟨shorter, toldBefore, fewer⟩ := exists_delay (before.trans inTime)
  exact ⟨shorter, _, toldBefore, fewer, capped_mono before⟩

end Client.Backoff

end TreeShell
