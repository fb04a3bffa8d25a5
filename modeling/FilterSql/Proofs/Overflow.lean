import FilterSql.Proofs.ExactDecimal

/-!
Where binary numbers end. The number nearest to a decimal is finite as long as the decimal is below
`2 ^ 1024 - 2 ^ 970`, which is half a unit above the greatest finite number; from there on it is infinity.
-/

namespace FilterSql

/-! ## Rounding -/

theorem roundHalfEven_bounds (a b : Nat) :
    a / b ≤ roundHalfEven a b ∧ roundHalfEven a b ≤ a / b + 1 := by
  unfold roundHalfEven
  dsimp only
  split
  · omega
  split
  · omega
  split <;> omega

/-- What lies half a unit below an even number rounds up to it. -/
theorem roundHalfEven_lt_iff {a b m : Nat} (pos : 0 < b) (even : m % 2 = 0) :
    roundHalfEven a b < m ↔ 2 * a + b < 2 * (m * b) := by
  have parts := Nat.div_add_mod' a b
  have small := Nat.mod_lt a pos
  unfold roundHalfEven
  generalize a / b = q at *
  generalize a % b = r at *
  subst parts
  dsimp only
  rcases (by omega : q + 2 ≤ m ∨ q + 1 = m ∨ m ≤ q) with below | rfl | above
  · have room := Nat.mul_le_mul_right b below
    rw [Nat.add_mul] at room
    split
    · omega
    split
    · omega
    split <;> omega
  · rw [Nat.add_mul]
    split
    · omega
    split
    · omega
    split <;> omega
  · have full := Nat.mul_le_mul_right b above
    split
    · omega
    split
    · omega
    split <;> omega

namespace Binary64

theorem infinityCode_eq : infinityCode = 2047 * 2 ^ 52 := rfl

theorem limit_eq : (2 : ℚ) ^ 1024 - 2 ^ 970 = (2 ^ (54 : Int) - 1) * 2 ^ (970 : Int) := by
  rw [sub_mul, one_mul, ← zpow_add₀ (by norm_num)]
  rfl

theorem roundHalfEven_lt_limit_iff {a b : Nat} (pos : 0 < b) :
    roundHalfEven a b < 2 ^ 53 ↔ (a / b * 2 * 2 ^ (970 : Int) : ℚ) < 2 ^ 1024 - 2 ^ 970 := by
  have rounded : roundHalfEven a b < 2 ^ 53 ↔ a * 2 + b < 2 ^ 54 * b := by
    rw [roundHalfEven_lt_iff pos (by decide)]
    omega
  have cast : a * 2 + b < 2 ^ 54 * b ↔ (a * 2 + b : ℚ) < 2 ^ (54 : Int) * b := by norm_cast
  have posRat : (0 : ℚ) < b := by exact_mod_cast pos
  have twoPos : (0 : ℚ) < 2 ^ (970 : Int) := zpow_pos (by norm_num) _
  rw [rounded, cast, limit_eq, mul_lt_mul_iff_left₀ twoPos, div_mul_eq_mul_div, div_lt_iff₀ posRat,
    sub_mul, one_mul, lt_sub_iff_add_lt]

/-! ## The nearest code of a ratio -/

/-- In the unit of the greatest finite numbers, rounding stays within 53 bits below the halfway point. -/
theorem roundHalfEven_top_lt_iff (n : Nat) {d : Nat} (hd : 0 < d) :
    roundHalfEven (inUnits n d 971).1 (inUnits n d 971).2 < 2 ^ 53 ↔
      (n / d : ℚ) < 2 ^ 1024 - 2 ^ 970 := by
  have units : (n / d : ℚ) =
      (inUnits n d 971).1 / (inUnits n d 971).2 * 2 * 2 ^ (970 : Int) := by
    rw [inUnits_ratio, mul_assoc (n / d : ℚ), mul_assoc (n / d : ℚ), ← zpow_add_one₀ (by norm_num),
      ← zpow_add₀ (by norm_num)]
    norm_num
  rw [units]
  exact roundHalfEven_lt_limit_iff (inUnits_pos n hd 971)

/-- The nearest number to a ratio is finite exactly if the ratio is below the halfway point to what would
be the next number after the greatest one. -/
theorem codeOfRatio_lt_iff {n d : Nat} (hn : 0 < n) (hd : 0 < d) :
    codeOfRatio n d < infinityCode ↔ (n / d : ℚ) < 2 ^ 1024 - 2 ^ 970 := by
  obtain ⟨least, high, low⟩ := unitFor_bounds hn hd
  obtain ⟨down, up⟩ := roundHalfEven_bounds (inUnits n d (unitFor n d)).1 (inUnits n d (unitFor n d)).2
  have code : codeOfRatio n d < infinityCode ↔
      (unitFor n d + 1074).toNat * leastNormal +
        roundHalfEven (inUnits n d (unitFor n d)).1 (inUnits n d (unitFor n d)).2 < infinityCode := by
    simp only [codeOfRatio]
    omega
  rw [code, leastNormal_eq, infinityCode_eq]
  have narrow := inUnits_div_lt (n := n) hd (unitFor n d)
  generalize unitFor n d = q at *
  -- The greatest finite numbers have the unit `2 ^ 971`. Below it no carry reaches infinity, above it
  -- everything is infinite.
  rcases lt_trichotomy q 971 with below | rfl | above
  · rw [add_comm, zpow_add₀ (by norm_num)] at high
    have bits : (inUnits n d q).1 / (inUnits n d q).2 < 2 ^ 53 := by
      rw [narrow]
      exact_mod_cast high
    have bounded : (n / d : ℚ) < 2 ^ 1024 - 2 ^ 970 := by
      calc (n / d : ℚ) < 2 ^ (53 : Int) * 2 ^ q := high
        _ ≤ (2 ^ (54 : Int) - 1) * 2 ^ (970 : Int) := by
          gcongr
          · norm_num
          · norm_num
          · omega
        _ = 2 ^ 1024 - 2 ^ 970 := limit_eq.symm
    refine iff_of_true ?_ bounded
    omega
  · rw [← roundHalfEven_top_lt_iff n hd]
    omega
  · have low := low.resolve_left (by omega)
    rw [add_comm, zpow_add₀ (by norm_num)] at low
    have bits : 2 ^ 52 ≤ (inUnits n d q).1 / (inUnits n d q).2 := by
      rw [← not_lt, narrow, not_lt]
      exact_mod_cast low
    have unbounded : ¬ (n / d : ℚ) < 2 ^ 1024 - 2 ^ 970 := by
      rw [not_lt, limit_eq]
      calc (2 ^ (54 : Int) - 1) * 2 ^ (970 : Int)
        _ ≤ (2 : ℚ) ^ (54 : Int) * 2 ^ (970 : Int) := by
          gcongr
          norm_num
        _ = 2 ^ (52 : Int) * 2 ^ (972 : Int) := by
          rw [← zpow_add₀ (by norm_num), ← zpow_add₀ (by norm_num)]
          rfl
        _ ≤ 2 ^ (52 : Int) * 2 ^ q := by
          gcongr
          · norm_num
          · omega
        _ ≤ n / d := low
    refine iff_of_false ?_ unbounded
    omega

/-! ## Decimals -/

theorem isFinite_iff (x : Binary64) : x.isFinite = true ↔ x.code.val < infinityCode :=
  decide_eq_true_iff

/-- The number of its digits gives the magnitude of a decimal. -/
theorem decimal_bounds {digits : Nat} (pos : digits ≠ 0) (exponent : Int) :
    (10 : ℚ) ^ ((Nat.toDigits 10 digits).length + exponent - 1) ≤ digits * 10 ^ exponent ∧
      (digits * 10 ^ exponent : ℚ) < 10 ^ ((Nat.toDigits 10 digits).length + exponent) := by
  have some : 0 < (Nat.toDigits 10 digits).length := Nat.length_toDigits_pos
  have high := (Nat.length_toDigits_le_iff (b := 10) (by decide) some).mp le_rfl
  have low : 10 ^ ((Nat.toDigits 10 digits).length - 1) ≤ digits := by
    rcases Nat.eq_zero_or_pos ((Nat.toDigits 10 digits).length - 1) with single | more
    · rw [single]
      exact Nat.pos_of_ne_zero pos
    · rw [← not_lt, ← Nat.length_toDigits_le_iff (by decide) more]
      omega
  have tenPos : (0 : ℚ) < 10 ^ exponent := zpow_pos (by norm_num) _
  constructor
  · have split : ((Nat.toDigits 10 digits).length + exponent - 1 : Int) =
        ((Nat.toDigits 10 digits).length - 1 : Nat) + exponent := by omega
    rw [split, zpow_add₀ (by norm_num), zpow_natCast, mul_le_mul_iff_left₀ tenPos]
    exact_mod_cast low
  · rw [zpow_add₀ (by norm_num), zpow_natCast, mul_lt_mul_iff_left₀ tenPos]
    exact_mod_cast high

theorem decimal_ratio (digits : Nat) (exponent : Int) :
    (digits * 10 ^ exponent : ℚ) =
      (digits * 10 ^ exponent.toNat : Nat) / (10 ^ (-exponent).toNat : Nat) := by
  rw [zpow_eq_div (by norm_num)]
  push_cast
  rw [mul_div_assoc]

theorem word_le_limit : (2 : ℚ) ^ 64 ≤ 2 ^ 1024 - 2 ^ 970 := by
  have power : (2 : ℚ) ^ (11 : Int) ≤ 2 ^ (970 : Int) :=
    zpow_le_zpow_right₀ (by norm_num) (by norm_num)
  rw [limit_eq]
  calc (2 : ℚ) ^ 64 ≤ (2 ^ (54 : Int) - 1) * 2 ^ (11 : Int) := by norm_num
    _ ≤ (2 ^ (54 : Int) - 1) * 2 ^ (970 : Int) := mul_le_mul_of_nonneg_left power (by norm_num)

theorem one_le_limit : (1 : ℚ) ≤ 2 ^ 1024 - 2 ^ 970 :=
  le_trans (by norm_num) word_le_limit

theorem limit_le : (2 : ℚ) ^ 1024 - 2 ^ 970 ≤ 10 ^ (310 : Int) := by
  have power : 2 ^ 1024 ≤ 10 ^ 310 := by decide +kernel
  calc (2 : ℚ) ^ 1024 - 2 ^ 970 ≤ 2 ^ 1024 := sub_le_self _ (by positivity)
    _ ≤ 10 ^ (310 : Int) := by exact_mod_cast power

/-- The number nearest to a decimal is finite exactly if the decimal is below the limit. -/
theorem ofDecimal_isFinite_iff (negative : Bool) (digits : Nat) (exponent : Int) :
    (ofDecimal negative digits exponent).isFinite = true ↔
      (digits * 10 ^ exponent : ℚ) < 2 ^ 1024 - 2 ^ 970 := by
  rw [isFinite_iff]
  have zeroFinite : (zero negative).code.val < infinityCode := by
    cases negative <;> decide
  by_cases none : digits = 0
  · have settled : ofDecimal negative digits exponent = zero negative := by simp [ofDecimal, none]
    rw [settled, none, Nat.cast_zero, zero_mul]
    exact iff_of_true zeroFinite (zero_lt_one.trans_le one_le_limit)
  obtain ⟨low, high⟩ := decimal_bounds none exponent
  by_cases small : (Nat.toDigits 10 digits).length + exponent < -330
  · have settled : ofDecimal negative digits exponent = zero negative := by
      simp [ofDecimal, small]
    rw [settled]
    refine iff_of_true zeroFinite (high.trans_le (le_trans ?_ one_le_limit))
    exact zpow_le_one_of_nonpos₀ (by norm_num) (by omega)
  by_cases large : 310 < (Nat.toDigits 10 digits).length + exponent
  · have settled : ofDecimal negative digits exponent = infinity negative := by
      simp [ofDecimal, none, small, large]
    rw [settled]
    refine iff_of_false (Nat.lt_irrefl _) (not_lt.mpr (limit_le.trans (le_trans ?_ low)))
    exact zpow_le_zpow_right₀ (by norm_num) (by omega)
  · rw [ofDecimal_of_magnitude negative none (by omega) (by omega)]
    rw [decimal_ratio]
    exact codeOfRatio_lt_iff (Nat.mul_pos (Nat.pos_of_ne_zero none) (Nat.pow_pos (by decide)))
      (Nat.pow_pos (by decide))

end Binary64

end FilterSql
