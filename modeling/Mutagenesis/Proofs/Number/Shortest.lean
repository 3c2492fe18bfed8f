import Mathlib.Data.Rat.Floor
import Mutagenesis.Proofs.Numeral
import Mutagenesis.Proofs.Number.Intervals

/-!
# Shortest decimals lie in the interval

The search for the shortest decimal of a double comes to one: nineteen places below the first digit
the grid is finer than the interval. Whatever it comes to lies in the interval of the double, so it
stands for no double of another magnitude.
-/
namespace Mutagenesis

/-- The number that a decimal stands for. -/
def Decimal.value (d : Decimal) : ℚ := d.coefficient * 10 ^ d.exponent

/-- Zeros at the end of the coefficient make no difference to the value. -/
theorem Decimal.value_stripZeros (n : Nat) (d : Decimal) : (d.stripZeros n).value = d.value := by
  induction n generalizing d with
  | zero => rfl
  | succ n ih =>
      rw [stripZeros]
      split
      next zeros =>
        have whole : d.coefficient = d.coefficient / 10 * 10 := by omega
        rw [ih, value, value, zpow_add₀ (by norm_num), zpow_one]
        conv_rhs => rw [whole]
        push_cast
        ring
      next => rfl

/-- A numeral of so many digits is that of a number below the power of ten. -/
theorem Text.lt_pow_length_numeral (n : Nat) : n < 10 ^ (numeral n).length := by
  induction n using numeral_induction with
  | digit n hn => simpa [numeral_of_lt hn] using hn
  | append n hn ih =>
      rw [numeral_of_le hn, List.length_append, List.length_singleton, pow_succ]
      omega

/-- And the number is not below the power of ten before it, unless it is zero. -/
theorem Text.pow_length_numeral_le {n : Nat} (h : n ≠ 0) :
    10 ^ ((numeral n).length - 1) ≤ n := by
  induction n using numeral_induction with
  | digit n hn =>
      rw [numeral_of_lt hn]
      exact Nat.pos_of_ne_zero h
  | append n hn ih =>
      have shorter := ih (by omega)
      have digits : 0 < (numeral (n / 10)).length :=
        List.length_pos_iff.2 (numeral_ne_nil (n / 10))
      obtain ⟨k, hk⟩ := Nat.exists_eq_succ_of_ne_zero digits.ne'
      rw [hk, Nat.succ_sub_one] at shorter
      rw [numeral_of_le hn, List.length_append, List.length_singleton, Nat.add_sub_cancel, hk,
        pow_succ]
      omega

namespace Binary64

/-- A power of ten as a power of a natural exponent. -/
theorem ten_zpow_eq (e : Int) :
    (10 : ℚ) ^ e = if 0 ≤ e then (10 : ℚ) ^ e.toNat else ((10 : ℚ) ^ (-e).toNat)⁻¹ := by
  split
  next h => rw [← zpow_natCast, Int.toNat_of_nonneg h]
  next h => rw [← zpow_natCast, ← zpow_neg, Int.toNat_of_nonneg (by omega), neg_neg]

theorem ten_zpow_pos (e : Int) : (0 : ℚ) < 10 ^ e := zpow_pos (by norm_num) e

namespace Interval

variable {i : Interval}

/-- The test for a decimal says whether its value lies in the interval. -/
theorem holds_iff {units : Nat} {e : Int} :
    i.holds units e = true ↔ i.Contains (units * 10 ^ e) := by
  rw [Contains, ten_zpow_eq]
  by_cases natural : 0 ≤ e
  · simp only [holds, Nat.pow_eq, if_pos natural, mul_one]
    split <;> simp only [decide_eq_true_eq] <;> norm_cast
  · have pow : (0 : ℚ) < 10 ^ (-e).toNat := by positivity
    have quotient : (units : ℚ) * ((10 : ℚ) ^ (-e).toNat)⁻¹ * i.den =
        units * i.den / 10 ^ (-e).toNat := by ring
    rw [if_neg natural, quotient, le_div_iff₀ pow, div_le_iff₀ pow, lt_div_iff₀ pow,
      div_lt_iff₀ pow]
    simp only [holds, Nat.pow_eq, if_neg natural]
    split <;> simp only [decide_eq_true_eq] <;> norm_cast

/-- A decimal on the grid that the search takes lies in the interval. -/
theorem contains_of_onGrid? {tie : TieRule} {e : Int} {d : Decimal}
    (h : i.onGrid? tie e = some d) : i.Contains d.value := by
  unfold onGrid? at h
  generalize (if 0 ≤ e then (i.value, i.den * Nat.pow 10 e.toNat)
    else (i.value * Nat.pow 10 (-e).toNat, i.den)) = grid at h
  obtain ⟨num, den⟩ := grid
  dsimp only at h
  generalize (decide (den < 2 * (num % den)) || _) = upper at h
  split at h
  next below above =>
    obtain rfl := Option.some.inj h
    rw [Bool.and_eq_true] at below
    cases upper with
    | true => exact holds_iff.1 above
    | false => exact holds_iff.1 below.1
  next below _ =>
    obtain rfl := Option.some.inj h
    rw [Bool.and_eq_true] at below
    exact holds_iff.1 below.1
  next above =>
    obtain rfl := Option.some.inj h
    exact holds_iff.1 above
  next => simp at h

/-- The value of an interval. -/
def center (i : Interval) : ℚ := i.value / i.den

/-- The power of ten of the magnitude is no larger than the value. -/
theorem pow_magnitude_le (hden : 0 < i.den) (hvalue : 0 < i.value) :
    (10 : ℚ) ^ i.magnitude ≤ i.center := by
  have den : (0 : ℚ) < i.den := by exact_mod_cast hden
  rw [center, le_div_iff₀ den]
  by_cases large : i.den ≤ i.value
  · have whole : i.value / i.den ≠ 0 := (Nat.div_pos large hden).ne'
    have digits : 0 < (Text.numeral (i.value / i.den)).length :=
      List.length_pos_iff.2 (Text.numeral_ne_nil _)
    have power : i.magnitude = ((Text.numeral (i.value / i.den)).length - 1 : Nat) := by
      rw [magnitude, if_pos large]
      omega
    rw [power, zpow_natCast]
    exact_mod_cast (Nat.mul_le_mul_right i.den (Text.pow_length_numeral_le whole)).trans
      (Nat.div_mul_le_self i.value i.den)
  · have below := (Nat.div_lt_iff_lt_mul hvalue).1 (Text.lt_pow_length_numeral (i.den / i.value))
    have pow : (0 : ℚ) < 10 ^ (Text.numeral (i.den / i.value)).length := by positivity
    rw [magnitude, if_neg large, zpow_neg, zpow_natCast, inv_mul_eq_div, div_le_iff₀ pow, mul_comm]
    exact_mod_cast below.le

/-- The search takes a decimal when the multiple of the power of ten below the value lies in the
interval. -/
theorem isSome_onGrid? {e : Int} {below : Nat} (hden : 0 < i.den) (positive : below ≠ 0)
    (lower : below * (10 : ℚ) ^ e ≤ i.center) (upper : i.center < (below + 1) * (10 : ℚ) ^ e)
    (holds : i.holds below e = true) (tie : TieRule) : (i.onGrid? tie e).isSome = true := by
  have den : (0 : ℚ) < i.den := by exact_mod_cast hden
  rw [center, le_div_iff₀ den] at lower
  rw [center, div_lt_iff₀ den] at upper
  have quotient : ∀ grid : Nat × Nat,
      grid = (if 0 ≤ e then (i.value, i.den * Nat.pow 10 e.toNat)
        else (i.value * Nat.pow 10 (-e).toNat, i.den)) → grid.1 / grid.2 = below := by
    rintro grid rfl
    rw [ten_zpow_eq] at lower upper
    split
    next natural =>
      rw [if_pos natural] at lower upper
      refine Nat.div_eq_of_lt_le ?_ ?_
      · simp only [Nat.pow_eq]
        have : below * 10 ^ e.toNat * i.den ≤ i.value := by exact_mod_cast lower
        linarith
      · simp only [Nat.pow_eq]
        have : i.value < (below + 1) * 10 ^ e.toNat * i.den := by exact_mod_cast upper
        linarith
    next natural =>
      have pow : (0 : ℚ) < 10 ^ (-e).toNat := by positivity
      rw [if_neg natural, mul_right_comm, ← div_eq_mul_inv] at lower upper
      rw [div_le_iff₀ pow] at lower
      rw [lt_div_iff₀ pow] at upper
      exact Nat.div_eq_of_lt_le (by exact_mod_cast lower) (by exact_mod_cast upper)
  unfold onGrid?
  generalize hgrid : (if 0 ≤ e then (i.value, i.den * Nat.pow 10 e.toNat)
    else (i.value * Nat.pow 10 (-e).toNat, i.den)) = grid
  have found := quotient grid hgrid.symm
  obtain ⟨num, den⟩ := grid
  dsimp only at found ⊢
  rw [found, holds]
  cases i.holds (below + 1) e <;> simp [positive]

end Interval

/-! ## The shortest decimal -/

theorem significand_lt (x : Binary64) : x.significand < 2 * exponentUnit := by
  have := x.fractionBits_lt
  unfold significand
  split <;> omega

/-- A finite double other than zero has a significand. -/
theorem significand_pos {x : Binary64} (h : x.isZero = false) : 0 < x.significand := by
  unfold significand
  split
  next least =>
    refine Nat.pos_of_ne_zero fun zero => ?_
    simp [isZero, least, zero] at h
  next => exact Nat.add_pos_left (by decide) _

/-- The factor by which the numbers of an interval are scaled. -/
def scale (x : Binary64) : Nat := if 0 ≤ x.exponent - 2 then 2 ^ (x.exponent - 2).toNat else 1

theorem scale_pos (x : Binary64) : 0 < x.scale := by
  unfold scale
  split
  · exact Nat.two_pow_pos _
  · exact Nat.one_pos

theorem interval_eq (x : Binary64) :
    x.interval.value = 4 * x.significand * x.scale ∧
      x.interval.high = (4 * x.significand + 2) * x.scale ∧
      x.interval.low ≤ (4 * x.significand - 1) * x.scale ∧
      (4 * x.significand - 2) * x.scale ≤ x.interval.low := by
  simp only [interval, scale, Nat.pow_eq]
  split
  all_goals
    refine ⟨rfl, rfl, Nat.mul_le_mul_right _ ?_, Nat.mul_le_mul_right _ ?_⟩
    all_goals split <;> omega

/-- A decimal just below the value of a double lies in its interval. -/
theorem contains_of_near {x : Binary64} (h : x.isZero = false) {v : ℚ}
    (below : v ≤ x.interval.center) (near : x.interval.center < v + x.interval.center / 10 ^ 18) :
    x.interval.Contains v := by
  obtain ⟨value, high, low, -⟩ := interval_eq x
  have den : (0 : ℚ) < x.interval.den := by exact_mod_cast den_interval_pos x
  have scale : (1 : ℚ) ≤ x.scale := by exact_mod_cast x.scale_pos
  have least : (1 : ℚ) ≤ x.significand := by exact_mod_cast significand_pos h
  have most : (x.significand : ℚ) < 2 ^ 53 := by
    have : x.significand < 2 ^ 53 := significand_lt x
    exact_mod_cast this
  have center : x.interval.center * x.interval.den = 4 * x.significand * x.scale := by
    rw [Interval.center, div_mul_cancel₀ _ den.ne', value]
    push_cast
    ring
  have lower : (x.interval.low : ℚ) < v * x.interval.den := by
    have bound : (x.interval.low : ℚ) ≤ (4 * x.significand - 1) * x.scale := by
      have positive := significand_pos h
      have : ((4 * x.significand - 1 : Nat) : ℚ) = 4 * x.significand - 1 := by
        rw [Nat.cast_sub (by omega)]
        push_cast
        ring
      rw [← this]
      exact_mod_cast low
    have near := mul_lt_mul_of_pos_right near den
    rw [add_mul, div_mul_eq_mul_div, center] at near
    have step : 4 * (x.significand : ℚ) * x.scale / 10 ^ 18 < x.scale := by
      rw [div_lt_iff₀ (by norm_num)]
      nlinarith
    linarith
  have upper : v * x.interval.den < x.interval.high := by
    have below := mul_le_mul_of_nonneg_right below den.le
    rw [center] at below
    rw [high]
    push_cast
    linarith
  unfold Interval.Contains
  split
  · exact ⟨lower.le, upper.le⟩
  · exact ⟨lower, upper⟩

/-- The shortest decimal of a finite double other than zero lies in its interval. -/
theorem contains_shortest {x : Binary64} (h : x.isZero = false) (tie : TieRule) :
    x.interval.Contains (x.shortest tie).value := by
  have hden := den_interval_pos x
  have hvalue : 0 < x.interval.value := by
    rw [(interval_eq x).1]
    exact Nat.mul_pos (Nat.mul_pos (by decide) (significand_pos h)) x.scale_pos
  have power := Interval.pow_magnitude_le hden hvalue
  have found : ((List.range 20).findSome? fun n : Nat =>
      x.interval.onGrid? tie (x.interval.magnitude + 1 - n)).isSome = true := by
    rw [List.findSome?_isSome_iff]
    refine ⟨19, by simp, ?_⟩
    have grid := ten_zpow_pos (x.interval.magnitude + 1 - (19 : Nat))
    have finer : (10 : ℚ) ^ (x.interval.magnitude + 1 - (19 : Nat)) * 10 ^ 18 =
        10 ^ x.interval.magnitude := by
      rw [← zpow_natCast, ← zpow_add₀ (by norm_num)]
      congr 1
      push_cast
      ring
    generalize (x.interval.magnitude + 1 - (19 : Nat)) = e at grid finer ⊢
    have ratio : 0 ≤ x.interval.center / 10 ^ e :=
      div_nonneg ((ten_zpow_pos _).le.trans power) grid.le
    have lower := (le_div_iff₀ grid).1 (Nat.floor_le ratio)
    have upper := (div_lt_iff₀ grid).1 (Nat.lt_floor_add_one (x.interval.center / 10 ^ e))
    refine Interval.isSome_onGrid? hden ?_ lower upper (Interval.holds_iff.2 ?_) tie
    · refine (Nat.floor_pos.2 ?_).ne'
      rw [le_div_iff₀ grid]
      linarith
    · refine contains_of_near h lower ?_
      have step : (10 : ℚ) ^ e ≤ x.interval.center / 10 ^ 18 := by
        rw [le_div_iff₀ (by norm_num), finer]
        exact power
      linarith
  obtain ⟨d, hd⟩ := Option.isSome_iff_exists.1 found
  obtain ⟨n, -, onGrid⟩ := List.exists_of_findSome?_eq_some hd
  unfold Binary64.shortest
  dsimp only
  rw [hd]
  dsimp only
  rw [Decimal.value_stripZeros]
  exact Interval.contains_of_onGrid? onGrid

/-- The numbers in the interval of a double other than zero are positive. -/
theorem pos_of_contains {x : Binary64} (h : x.isZero = false) {v : ℚ}
    (inside : x.interval.Contains v) : 0 < v := by
  obtain ⟨-, -, -, low⟩ := interval_eq x
  have positive := significand_pos h
  have end_pos : 0 < x.interval.low := (Nat.mul_pos (by omega) x.scale_pos).trans_le low
  have den : (0 : ℚ) < x.interval.den := by exact_mod_cast den_interval_pos x
  refine pos_of_mul_pos_left (lt_of_lt_of_le ?_ inside.bounds.1) den.le
  exact_mod_cast end_pos

end Binary64

end Mutagenesis
