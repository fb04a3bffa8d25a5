import FilterSql.Decimal.Nearest
import Mathlib.Algebra.Order.Field.Basic
import Mathlib.Algebra.Order.Field.Power
import Mathlib.Data.Rat.Cast.Order
import Mathlib.Tactic.FieldSimp
import Mathlib.Tactic.Linarith
import Mathlib.Tactic.Ring

/-!
Every binary number but those that are no numbers has a decimal that reads as it: a finite number
its exact expansion, an infinity any decimal out of range.
-/

namespace FilterSql

theorem zpow_eq_div {a : ℚ} (solid : a ≠ 0) (e : Int) : a ^ e = a ^ e.toNat / a ^ (-e).toNat := by
  rw [← zpow_natCast, ← zpow_natCast, ← zpow_sub₀ solid, Int.toNat_sub_toNat_neg]

theorem roundHalfEven_mul (m : Nat) {d : Nat} (pos : 0 < d) : roundHalfEven (m * d) d = m := by
  simp [roundHalfEven, Nat.mul_div_cancel m pos, pos]

namespace Binary64

/-! ## The nearest code of a representable ratio -/

theorem leastNormal_eq : leastNormal = 2 ^ 52 := rfl

theorem inUnits_pos (n : Nat) {d : Nat} (pos : 0 < d) (q : Int) : 0 < (inUnits n d q).2 := by
  rw [inUnits, Nat.shiftLeft_eq d]
  exact Nat.mul_pos pos (Nat.two_pow_pos _)

theorem inUnits_ratio (n d : Nat) (q : Int) :
    ((inUnits n d q).1 : ℚ) / (inUnits n d q).2 = n / d * 2 ^ (-q) := by
  have shift := zpow_eq_div (two_ne_zero (α := ℚ)) (-q)
  rw [neg_neg] at shift
  rw [shift]
  simp only [inUnits, Nat.shiftLeft_eq, Nat.cast_mul, Nat.cast_pow, Nat.cast_ofNat]
  rw [mul_div_mul_comm]

/-- The ratio lies within a factor of two of what the binary logarithms say. -/
theorem ratio_bounds {n d : Nat} (hn : 0 < n) (hd : 0 < d) :
    (2 : ℚ) ^ ((Nat.log2 n : Int) - Nat.log2 d - 1) < n / d ∧
      (n / d : ℚ) < 2 ^ ((Nat.log2 n : Int) - Nat.log2 d + 1) := by
  have nLow : ((2 ^ Nat.log2 n : Nat) : ℚ) ≤ n := by exact_mod_cast Nat.log2_self_le hn.ne'
  have nHigh : (n : ℚ) < ((2 ^ (Nat.log2 n + 1) : Nat) : ℚ) := by exact_mod_cast Nat.lt_log2_self
  have dLow : ((2 ^ Nat.log2 d : Nat) : ℚ) ≤ d := by exact_mod_cast Nat.log2_self_le hd.ne'
  have dHigh : (d : ℚ) < ((2 ^ (Nat.log2 d + 1) : Nat) : ℚ) := by exact_mod_cast Nat.lt_log2_self
  have dPos : (0 : ℚ) < d := by exact_mod_cast hd
  push_cast at nLow nHigh dLow dHigh
  constructor
  · rw [lt_div_iff₀ dPos]
    calc (2 : ℚ) ^ ((Nat.log2 n : Int) - Nat.log2 d - 1) * d
        < 2 ^ ((Nat.log2 n : Int) - Nat.log2 d - 1) * 2 ^ (Nat.log2 d + 1) := by gcongr
      _ = 2 ^ Nat.log2 n := by
        rw [← zpow_natCast, ← zpow_add₀ (by norm_num), ← zpow_natCast]
        congr 1
        push_cast
        ring
      _ ≤ n := nLow
  · rw [div_lt_iff₀ dPos]
    calc (n : ℚ) < 2 ^ (Nat.log2 n + 1) := nHigh
      _ = 2 ^ ((Nat.log2 n : Int) - Nat.log2 d + 1) * 2 ^ Nat.log2 d := by
        rw [← zpow_natCast 2 (Nat.log2 d), ← zpow_add₀ (by norm_num), ← zpow_natCast]
        congr 1
        push_cast
        ring
      _ ≤ 2 ^ ((Nat.log2 n : Int) - Nat.log2 d + 1) * d := by gcongr

theorem exponent_lt_of_lt {m : Nat} {e i j : Int} (low : (2 : ℚ) ^ i ≤ m)
    (high : (m : ℚ) * 2 ^ e < 2 ^ j) : i + e < j := by
  apply (zpow_lt_zpow_iff_right₀ (one_lt_two : (1 : ℚ) < 2)).mp
  calc (2 : ℚ) ^ (i + e) = 2 ^ i * 2 ^ e := zpow_add₀ (by norm_num) _ _
    _ ≤ m * 2 ^ e := by gcongr
    _ < 2 ^ j := high

theorem lt_exponent_of_le {m : Nat} {e i j : Int} (high : (m : ℚ) < 2 ^ i)
    (low : (2 : ℚ) ^ j ≤ m * 2 ^ e) : j < i + e := by
  apply (zpow_lt_zpow_iff_right₀ (one_lt_two : (1 : ℚ) < 2)).mp
  calc (2 : ℚ) ^ j ≤ m * 2 ^ e := low
    _ < 2 ^ i * 2 ^ e := by gcongr
    _ = 2 ^ (i + e) := (zpow_add₀ (by norm_num) _ _).symm

theorem leastNormal_cast : (leastNormal : ℚ) = 2 ^ (52 : Int) := by
  rw [leastNormal_eq]
  norm_cast

theorem inUnits_div_lt {n d : Nat} (hd : 0 < d) (q : Int) (m : Nat) :
    (inUnits n d q).1 / (inUnits n d q).2 < m ↔ (n / d : ℚ) < m * 2 ^ q := by
  have unitPos : (0 : ℚ) < (inUnits n d q).2 := by exact_mod_cast inUnits_pos n hd q
  have twoPos : (0 : ℚ) < 2 ^ q := zpow_pos (by norm_num) q
  have units := inUnits_ratio n d q
  rw [zpow_neg, ← div_eq_mul_inv] at units
  rw [Nat.div_lt_iff_lt_mul (inUnits_pos n hd q), ← div_lt_iff₀ twoPos, ← units, div_lt_iff₀ unitPos]
  norm_cast

/-- A ratio has its greatest 53 bits before the point in the unit that is chosen, were it not for the
least one. -/
theorem exists_unit {n d : Nat} (hn : 0 < n) (hd : 0 < d) :
    ∃ q, unitFor n d = max q (-1074) ∧ (2 : ℚ) ^ (q + 52) ≤ n / d ∧
      (n / d : ℚ) < 2 ^ (q + 53) := by
  obtain ⟨low, high⟩ := ratio_bounds hn hd
  have narrow := inUnits_div_lt (n := n) hd ((Nat.log2 n : Int) - Nat.log2 d - 52) leastNormal
  rw [leastNormal_cast, ← zpow_add₀ (by norm_num)] at narrow
  by_cases short : (inUnits n d ((Nat.log2 n : Int) - Nat.log2 d - 52)).1 /
      (inUnits n d ((Nat.log2 n : Int) - Nat.log2 d - 52)).2 < leastNormal
  · refine ⟨(Nat.log2 n : Int) - Nat.log2 d - 52 - 1, by simp only [unitFor, if_pos short], ?_, ?_⟩
    · rw [sub_add_eq_add_sub, sub_add_cancel]
      exact low.le
    · rw [sub_add_eq_add_sub, add_sub_assoc, add_comm]
      exact narrow.mp short
  · refine ⟨(Nat.log2 n : Int) - Nat.log2 d - 52, by simp only [unitFor, if_neg short], ?_, ?_⟩
    · rw [add_comm]
      exact not_lt.mp (mt narrow.mpr short)
    · rw [sub_add_eq_add_sub, add_sub_assoc]
      exact high

/-- In its unit a ratio has at most 53 bits before the point, and fewer only in the least unit. -/
theorem unitFor_bounds {n d : Nat} (hn : 0 < n) (hd : 0 < d) :
    -1074 ≤ unitFor n d ∧ (n / d : ℚ) < 2 ^ (unitFor n d + 53) ∧
      (unitFor n d = -1074 ∨ (2 : ℚ) ^ (unitFor n d + 52) ≤ n / d) := by
  obtain ⟨q, chosen, low, high⟩ := exists_unit hn hd
  rw [chosen]
  refine ⟨le_max_right _ _, high.trans_le ?_, ?_⟩
  · gcongr
    · norm_num
    · exact le_max_left _ _
  · rcases le_total q (-1074) with below | above
    · exact .inl (max_eq_right below)
    · rw [max_eq_left above]
      exact .inr low

/-- The unit of a representable ratio is the one it has as a binary number. -/
theorem unitFor_exact {n d m : Nat} {e : Int} (hn : 0 < n) (hd : 0 < d)
    (exact : (n : ℚ) / d = m * 2 ^ e) (small : m < 2 ^ 53) (least : -1074 ≤ e)
    (normal : e = -1074 ∨ 2 ^ 52 ≤ m) : unitFor n d = e := by
  obtain ⟨bottom, high, low⟩ := unitFor_bounds hn hd
  rw [exact] at high low
  rcases lt_trichotomy (unitFor n d) e with below | same | above
  · have full : (2 : ℚ) ^ (52 : Int) ≤ m := by exact_mod_cast normal.resolve_left (by omega)
    have short := exponent_lt_of_lt full high
    omega
  · exact same
  · have slight : (m : ℚ) < 2 ^ (53 : Int) := by exact_mod_cast small
    have long := lt_exponent_of_le slight (low.resolve_left (by omega))
    omega

theorem codeOfRatio_exact {n d m : Nat} {e : Int} (hn : 0 < n) (hd : 0 < d)
    (exact : (n : ℚ) / d = m * 2 ^ e) (small : m < 2 ^ 53) (least : -1074 ≤ e)
    (normal : e = -1074 ∨ 2 ^ 52 ≤ m) :
    codeOfRatio n d = min ((e + 1074).toNat * leastNormal + m) infinityCode := by
  have units := inUnits_ratio n d e
  rw [exact, mul_assoc, ← zpow_add₀ (by norm_num), add_neg_cancel, zpow_zero, mul_one] at units
  have unitPos := inUnits_pos n hd e
  have whole : (inUnits n d e).1 = m * (inUnits n d e).2 := by
    have unitPosRat : (0 : ℚ) < (inUnits n d e).2 := by exact_mod_cast unitPos
    rw [div_eq_iff unitPosRat.ne'] at units
    exact_mod_cast units
  simp only [codeOfRatio, unitFor_exact hn hd exact small least normal]
  rw [whole, roundHalfEven_mul m unitPos]

/-! ## Expansions -/

/-- The digits of a decimal that reads as the number, with the exponent of ten that follows. -/
def expansionDigits (x : Binary64) : Nat :=
  if x.isFinite then x.significand * 2 ^ x.exponent.toNat * 5 ^ (-x.exponent).toNat else 1

@[inherit_doc expansionDigits]
def expansionExponent (x : Binary64) : Int :=
  if x.isFinite then min x.exponent 0 else 400

theorem significand_lt (x : Binary64) : x.significand < 2 ^ 53 := by
  unfold significand leastNormal
  split <;> omega

theorem exponent_bounds {x : Binary64} (finite : x.isFinite = true) :
    -1074 ≤ x.exponent ∧ x.exponent ≤ 971 := by
  have below : x.code.val < infinityCode := of_decide_eq_true finite
  unfold infinityCode at below
  unfold exponent leastNormal
  split <;> omega

theorem exponent_least_or_significand_full (x : Binary64) :
    x.exponent = -1074 ∨ 2 ^ 52 ≤ x.significand := by
  unfold exponent significand leastNormal
  split <;> omega

theorem code_eq (x : Binary64) :
    (x.exponent + 1074).toNat * leastNormal + x.significand = x.code.val := by
  unfold exponent significand leastNormal
  split <;> omega

theorem expansion_ratio (m : Nat) (e : Int) :
    ((m * 2 ^ e.toNat * 5 ^ (-e).toNat : Nat) : ℚ) / (10 ^ (-e).toNat : Nat) = m * 2 ^ e := by
  have ten : ((10 ^ (-e).toNat : Nat) : ℚ) = 2 ^ (-e).toNat * 5 ^ (-e).toNat := by
    rw [← mul_pow]
    norm_num
  rw [zpow_eq_div two_ne_zero, ten]
  push_cast
  field_simp

theorem ten_pow_le_five_pow {k : Nat} (least : 331 ≤ k) (greatest : k ≤ 1074) :
    10 ^ (k - 331) ≤ 5 ^ k := by
  have halves : 2 ^ (k - 331) ≤ 5 ^ 331 :=
    Nat.le_trans (Nat.pow_le_pow_right (by decide) (by omega : k - 331 ≤ 743)) (by decide +kernel)
  calc 10 ^ (k - 331) = 2 ^ (k - 331) * 5 ^ (k - 331) := by rw [← Nat.mul_pow]
    _ ≤ 5 ^ 331 * 5 ^ (k - 331) := Nat.mul_le_mul_right _ halves
    _ = 5 ^ k := by rw [← Nat.pow_add, Nat.add_sub_cancel' least]

theorem expansion_lt {m j : Nat} (k : Nat) (small : m < 2 ^ 53) (greatest : j ≤ 971) :
    m * 2 ^ j * 5 ^ k < 10 ^ (310 + k) := by
  have scale := Nat.pow_le_pow_right (n := 2) (by decide) greatest
  have lead : m * 2 ^ j < 10 ^ 310 :=
    Nat.lt_of_lt_of_le (Nat.mul_lt_mul_of_lt_of_le small scale (Nat.two_pow_pos 971))
      (by decide +kernel)
  calc m * 2 ^ j * 5 ^ k < 10 ^ 310 * 5 ^ k :=
        Nat.mul_lt_mul_of_pos_right lead (Nat.pow_pos (by decide))
    _ ≤ 10 ^ 310 * 10 ^ k := Nat.mul_le_mul_left (10 ^ 310) (Nat.pow_le_pow_left (by decide) k)
    _ = 10 ^ (310 + k) := by rw [Nat.pow_add]

/-- The expansion is never settled by its magnitude. -/
theorem expansion_magnitude {m : Nat} {e : Int} (pos : 0 < m) (small : m < 2 ^ 53)
    (least : -1074 ≤ e) (greatest : e ≤ 971) :
    -330 ≤ (Nat.toDigits 10 (m * 2 ^ e.toNat * 5 ^ (-e).toNat)).length + min e 0 ∧
      (Nat.toDigits 10 (m * 2 ^ e.toNat * 5 ^ (-e).toNat)).length + min e 0 ≤ 310 := by
  have bounded := (Nat.length_toDigits_le_iff (by decide) (by omega)).mpr
    (expansion_lt (-e).toNat small (by omega : e.toNat ≤ 971))
  refine ⟨?_, by omega⟩
  by_contra below
  have power : 5 ^ (-e).toNat ≤ m * 2 ^ e.toNat * 5 ^ (-e).toNat :=
    Nat.le_mul_of_pos_left _ (Nat.mul_pos pos (Nat.two_pow_pos _))
  generalize m * 2 ^ e.toNat * 5 ^ (-e).toNat = digits at below power
  have short : (Nat.toDigits 10 digits).length ≤ (-e).toNat - 331 := by omega
  have positive := Nat.lt_of_lt_of_le Nat.length_toDigits_pos short
  rw [Nat.length_toDigits_le_iff (by decide) positive] at short
  have long := Nat.le_trans (ten_pow_le_five_pow (by omega) (by omega)) power
  exact absurd long (Nat.not_le.mpr short)

/-! ## Reading an expansion -/

theorem eq_of_code {x y : Binary64} (sign : x.negative = y.negative)
    (code : x.code.val = y.code.val) : x = y := by
  obtain ⟨negative, c⟩ := x
  obtain ⟨negative', c'⟩ := y
  rw [mk.injEq]
  exact ⟨sign, Fin.ext code⟩

theorem ofRatio_eq {x : Binary64} {n d : Nat} (nearest : codeOfRatio n d = x.code.val) :
    ofRatio x.negative n d = x := by
  rw [ofRatio]
  exact eq_of_code rfl nearest

theorem ofDecimal_of_magnitude (negative : Bool) {digits : Nat} {exponent : Int}
    (pos : digits ≠ 0) (least : -330 ≤ (Nat.toDigits 10 digits).length + exponent)
    (greatest : (Nat.toDigits 10 digits).length + exponent ≤ 310) :
    ofDecimal negative digits exponent =
      ofRatio negative (digits * 10 ^ exponent.toNat) (10 ^ (-exponent).toNat) := by
  have inside : ¬ (Nat.toDigits 10 digits).length + exponent < -330 := by omega
  have bounded : ¬ 310 < (Nat.toDigits 10 digits).length + exponent := by omega
  simp [ofDecimal, pos, inside, bounded]

theorem ofDecimal_finite {x : Binary64} (finite : x.isFinite = true) :
    ofDecimal x.negative (x.significand * 2 ^ x.exponent.toNat * 5 ^ (-x.exponent).toNat)
      (min x.exponent 0) = x := by
  obtain ⟨least, greatest⟩ := exponent_bounds finite
  have code := x.code_eq
  rcases Nat.eq_zero_or_pos x.significand with none | some
  · have nothing : 0 = x.code.val := by
      have full := x.exponent_least_or_significand_full
      rw [leastNormal_eq] at code
      omega
    have settled : ofDecimal x.negative 0 (min x.exponent 0) = zero x.negative := by
      simp [ofDecimal]
    rw [none, Nat.zero_mul, Nat.zero_mul, settled]
    exact eq_of_code rfl nothing
  · have positive : 0 < x.significand * 2 ^ x.exponent.toNat * 5 ^ (-x.exponent).toNat :=
      Nat.mul_pos (Nat.mul_pos some (Nat.two_pow_pos _)) (Nat.pow_pos (by decide))
    obtain ⟨low, high⟩ := expansion_magnitude some x.significand_lt least greatest
    have whole : (min x.exponent 0).toNat = 0 := by omega
    have places : (-min x.exponent 0).toNat = (-x.exponent).toNat := by omega
    have below : x.code.val < infinityCode := of_decide_eq_true finite
    have nearest := codeOfRatio_exact positive (Nat.pow_pos (by decide)) (expansion_ratio _ _)
      x.significand_lt least x.exponent_least_or_significand_full
    rw [code, Nat.min_eq_left below.le] at nearest
    rw [ofDecimal_of_magnitude x.negative positive.ne' low high, whole, places, Nat.pow_zero,
      Nat.mul_one]
    exact ofRatio_eq nearest

/-- What a number expands to reads as the number. -/
theorem ofDecimal_expansion {x : Binary64} (number : x.code.val ≤ infinityCode) :
    ofDecimal x.negative x.expansionDigits x.expansionExponent = x := by
  unfold expansionDigits expansionExponent
  cases finite : x.isFinite with
  | true => exact ofDecimal_finite finite
  | false =>
    have above : infinityCode ≤ x.code.val := Nat.not_lt.mp (of_decide_eq_false finite)
    have out : ofDecimal x.negative 1 400 = infinity x.negative := rfl
    exact out.trans (eq_of_code rfl (Nat.le_antisymm above number))

/-- No decimal reads as what is no number. -/
theorem ofDecimal_code_le (negative : Bool) (digits : Nat) (exponent : Int) :
    (ofDecimal negative digits exponent).code.val ≤ infinityCode := by
  simp only [ofDecimal]
  split
  · exact Nat.zero_le _
  · split
    · exact Nat.le_refl _
    · exact codeOfRatio_le _ _

end Binary64

end FilterSql
