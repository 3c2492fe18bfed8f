import Mathlib.Data.Rat.Lemmas
import Mathlib.Algebra.Order.Field.Rat
import Mathlib.Algebra.Order.Field.Basic
import Mathlib.Tactic.Linarith
import Mathlib.Tactic.FieldSimp
import Mathlib.Tactic.Positivity
import Mathlib.Tactic.Ring
import Mathlib.Tactic.NormNum
import Mutagenesis.Number.Shortest

/-!
# Rounding intervals

The reals that round to a finite double make an interval, and the intervals of doubles of different
magnitude have no point in common. The doubles are counted by their bits without the sign: the
interval of each begins where that of the one before it ends, and of two neighbours only one has an
even significand and so its ends.
-/
namespace Mutagenesis.Binary64

/-- The bits without the sign, which count the magnitudes from zero on. -/
def rank (x : Binary64) : Nat := x.bits.toNat % signUnit

theorem rank_eq (x : Binary64) : x.rank = x.exponentBits * exponentUnit + x.fractionBits := by
  simp only [rank, exponentBits, fractionBits, signUnit, exponentUnit]
  omega

theorem fractionBits_lt (x : Binary64) : x.fractionBits < exponentUnit :=
  Nat.mod_lt _ (by decide)

/-- A double is its sign and its rank. -/
theorem eq_of_rank_eq {x y : Binary64} (sign : x.isNegative = y.isNegative)
    (rank : x.rank = y.rank) : x = y := by
  obtain ⟨a⟩ := x
  obtain ⟨b⟩ := y
  have ha := a.toNat_lt
  have hb := b.toNat_lt
  have side : signUnit ≤ a.toNat ↔ signUnit ≤ b.toNat := decide_eq_decide.1 sign
  simp only [Binary64.rank, signUnit] at side rank
  have same : a.toNat = b.toNat := by omega
  rw [UInt64.toNat_inj.1 same]

/-! ## Ends by rank -/

/-- The significand of the doubles of a rank. -/
def significandAt (n : Nat) : Nat :=
  if n / exponentUnit = 0 then n % exponentUnit else exponentUnit + n % exponentUnit

/-- The places of the least quarter of a double. -/
def finest : Nat := 1076

/-- The lower end of the interval of a rank, in quarters of the least double. -/
def lowAt (n : Nat) : Nat :=
  (4 * significandAt n - if n % exponentUnit = 0 ∧ 1 < n / exponentUnit then 1 else 2) *
    2 ^ (n / exponentUnit - 1)

/-- The upper end. -/
def highAt (n : Nat) : Nat := (4 * significandAt n + 2) * 2 ^ (n / exponentUnit - 1)

/-- The interval of a rank begins where that of the rank before it ends. -/
theorem lowAt_succ (n : Nat) : lowAt (n + 1) = highAt n := by
  unfold lowAt highAt significandAt
  by_cases last : n % exponentUnit + 1 = exponentUnit
  · have fraction : (n + 1) % exponentUnit = 0 := by
      simp only [exponentUnit] at last ⊢
      omega
    have exponent : (n + 1) / exponentUnit = n / exponentUnit + 1 := by
      simp only [exponentUnit] at last ⊢
      omega
    rw [fraction, exponent, if_neg (Nat.succ_ne_zero _), Nat.add_sub_cancel]
    by_cases least : n / exponentUnit = 0
    · rw [least, if_pos rfl, if_neg (by omega)]
      simp only [exponentUnit] at last ⊢
      omega
    · obtain ⟨e, he⟩ := Nat.exists_eq_succ_of_ne_zero least
      rw [he, if_neg (Nat.succ_ne_zero e), if_pos ⟨rfl, by omega⟩, Nat.succ_sub_one, pow_succ]
      have units : (4 * (exponentUnit + 0) - 1) * 2 =
          4 * (exponentUnit + n % exponentUnit) + 2 := by
        simp only [exponentUnit] at last ⊢
        omega
      rw [← units]
      ring
  · have small := Nat.mod_lt n (show 0 < exponentUnit by decide)
    have fraction : (n + 1) % exponentUnit = n % exponentUnit + 1 := by
      simp only [exponentUnit] at last small ⊢
      omega
    have exponent : (n + 1) / exponentUnit = n / exponentUnit := by
      simp only [exponentUnit] at last small ⊢
      omega
    rw [fraction, exponent, if_neg (show ¬(n % exponentUnit + 1 = 0 ∧ _) from fun h => by omega)]
    congr 1
    split <;> omega

theorem lowAt_lt_highAt (n : Nat) : lowAt n < highAt n := by
  refine Nat.mul_lt_mul_of_pos_right ?_ (Nat.two_pow_pos _)
  omega

/-- Of two ranks, the interval of the lower one ends before that of the higher one begins, and
where the two ends meet the ranks are neighbours. -/
theorem highAt_le_lowAt {m n : Nat} (h : m < n) :
    highAt m ≤ lowAt n ∧ (highAt m = lowAt n → n = m + 1) := by
  induction n with
  | zero => omega
  | succ n ih =>
      rw [lowAt_succ]
      obtain rfl | before := Nat.eq_or_lt_of_le (Nat.le_of_lt_succ h)
      · exact ⟨le_rfl, fun _ => rfl⟩
      · have := (ih before).1
        have := lowAt_lt_highAt n
        exact ⟨by omega, fun same => by omega⟩

/-! ## Intervals as sets of rationals -/

/-- Whether a rational lies in an interval. -/
def Interval.Contains (i : Interval) (v : ℚ) : Prop :=
  if i.closed then (i.low : ℚ) ≤ v * i.den ∧ v * i.den ≤ i.high
  else (i.low : ℚ) < v * i.den ∧ v * i.den < i.high

theorem Interval.Contains.bounds {i : Interval} {v : ℚ} (h : i.Contains v) :
    (i.low : ℚ) ≤ v * i.den ∧ v * i.den ≤ i.high := by
  unfold Contains at h
  split at h
  · exact h
  · exact ⟨h.1.le, h.2.le⟩

/-- An interval has its ends only when it is closed. -/
theorem Interval.Contains.closed {i : Interval} {v : ℚ} (h : i.Contains v)
    (atEnd : v * i.den = i.low ∨ v * i.den = i.high) : i.closed = true := by
  unfold Contains at h
  split at h
  next closed => exact closed
  next =>
    obtain same | same := atEnd
    · exact absurd h.1 (by rw [same]; exact lt_irrefl _)
    · exact absurd h.2 (by rw [same]; exact lt_irrefl _)

/-- What the ends of an interval by rank are, over its denominator. -/
theorem interval_ends (x : Binary64) :
    (x.interval.low : ℚ) * 2 ^ finest = lowAt x.rank * x.interval.den ∧
      (x.interval.high : ℚ) * 2 ^ finest = highAt x.rank * x.interval.den := by
  have hf := x.fractionBits_lt
  have exponent : x.rank / exponentUnit = x.exponentBits := by
    rw [rank_eq]
    simp only [exponentUnit] at hf ⊢
    omega
  have fraction : x.rank % exponentUnit = x.fractionBits := by
    rw [rank_eq]
    simp only [exponentUnit] at hf ⊢
    omega
  have significand : significandAt x.rank = x.significand := by
    rw [significandAt, exponent, fraction, Binary64.significand]
  rw [lowAt, highAt, significand, exponent, fraction]
  generalize hk : x.exponentBits - 1 = k
  have shift : x.exponent - 2 = (k : Int) - finest := by
    rw [Binary64.exponent, finest]
    omega
  simp only [interval, shift, Nat.pow_eq]
  by_cases large : (0 : Int) ≤ (k : Int) - finest
  · have power : (2 : ℚ) ^ k = 2 ^ ((k : Int) - finest).toNat * 2 ^ finest := by
      rw [← pow_add]
      congr 1
      omega
    simp only [if_pos large, Nat.cast_mul, Nat.cast_pow, Nat.cast_ofNat, Nat.cast_one, mul_one,
      power]
    constructor <;> ring
  · have power : (2 : ℚ) ^ finest = 2 ^ k * 2 ^ (-((k : Int) - finest)).toNat := by
      rw [← pow_add]
      congr 1
      omega
    simp only [if_neg large, Nat.cast_mul, Nat.cast_pow, Nat.cast_ofNat, mul_one, power]
    constructor <;> ring

theorem den_interval_pos (x : Binary64) : 0 < x.interval.den := by
  simp only [interval, Nat.pow_eq]
  split
  · exact Nat.one_pos
  · exact Nat.two_pow_pos _

/-- No rational lies in the intervals of two doubles of different rank. -/
theorem rank_eq_of_contains {x y : Binary64} {v : ℚ} (hx : x.interval.Contains v)
    (hy : y.interval.Contains v) : x.rank = y.rank := by
  -- the two cases are the same with the doubles exchanged
  have noneBelow : ∀ {x y : Binary64}, x.interval.Contains v → y.interval.Contains v →
      ¬ x.rank < y.rank := by
    intro x y hx hy below
    obtain ⟨-, high⟩ := interval_ends x
    obtain ⟨low, -⟩ := interval_ends y
    have dx : (0 : ℚ) < x.interval.den := by exact_mod_cast den_interval_pos x
    have dy : (0 : ℚ) < y.interval.den := by exact_mod_cast den_interval_pos y
    obtain ⟨ordered, meet⟩ := highAt_le_lowAt below
    have upper : v * 2 ^ finest ≤ highAt x.rank := by
      have := mul_le_mul_of_nonneg_right hx.bounds.2 (show (0 : ℚ) ≤ 2 ^ finest by positivity)
      rw [high] at this
      exact le_of_mul_le_mul_right (by linarith) dx
    have lower : (lowAt y.rank : ℚ) ≤ v * 2 ^ finest := by
      have := mul_le_mul_of_nonneg_right hy.bounds.1 (show (0 : ℚ) ≤ 2 ^ finest by positivity)
      rw [low] at this
      exact le_of_mul_le_mul_right (by linarith) dy
    have ordered : (highAt x.rank : ℚ) ≤ lowAt y.rank := by exact_mod_cast ordered
    have atHigh : v * 2 ^ finest = highAt x.rank := le_antisymm upper (ordered.trans lower)
    have atLow : v * 2 ^ finest = lowAt y.rank := le_antisymm (upper.trans ordered) lower
    have neighbours : y.rank = x.rank + 1 := meet (by exact_mod_cast atHigh.symm.trans atLow)
    have pow : (2 : ℚ) ^ finest ≠ 0 := by positivity
    have closedX : x.interval.closed = true := by
      refine hx.closed (.inr (mul_right_cancel₀ pow ?_))
      rw [high, ← atHigh]
      ring
    have closedY : y.interval.closed = true := by
      refine hy.closed (.inl (mul_right_cancel₀ pow ?_))
      rw [low, ← atLow]
      ring
    have even : ∀ {z : Binary64}, z.interval.closed = true → z.rank % 2 = 0 := by
      intro z hz
      have : z.significand % 2 = 0 := by simpa [interval] using hz
      have hf := z.fractionBits_lt
      rw [rank_eq]
      simp only [significand, exponentUnit] at this hf ⊢
      split at this <;> omega
    have := even closedX
    have := even closedY
    omega
  have := noneBelow hx hy
  have := noneBelow hy hx
  omega

end Mutagenesis.Binary64
