import Mathlib.Algebra.Ring.Nat
import Mutagenesis.Model.Throttle

/-!
# Delays of a backoff

The delay of a backoff doubles with every repetition, and what is drawn adds less than the first
delay; so no delay is shorter than an earlier one as long as the doubling goes on. It stops when
thirty-two bits are full. From then on the growth of all delays is the same, and one with a smaller
draw is shorter than an earlier one, unless no draw adds anything or the longest delay is reached.
-/
namespace Mutagenesis.Throttle

variable {retry later : Nat}

/-! ## Growth -/

theorem growth_of_le (h : retry ≤ 32) : growth retry = 2 ^ (retry - 1) := if_pos h

theorem growth_of_lt (h : 32 < retry) : growth retry = 2 ^ 32 - 1 := if_neg (Nat.not_le.2 h)

/-- The first delay doubles as far as thirty-two bits hold. -/
theorem growth_eq_min (retry : Nat) : growth retry = min (2 ^ (retry - 1)) (2 ^ 32 - 1) := by
  by_cases h : retry ≤ 32
  · have fits : 2 ^ (retry - 1) ≤ 2 ^ 31 := Nat.pow_le_pow_right (by decide) (by omega)
    rw [growth_of_le h]
    omega
  · have full : 2 ^ 32 ≤ 2 ^ (retry - 1) := Nat.pow_le_pow_right (by decide) (by omega)
    rw [growth_of_lt (Nat.not_le.1 h)]
    omega

theorem growth_mono (h : retry ≤ later) : growth retry ≤ growth later := by
  have powers : 2 ^ (retry - 1) ≤ 2 ^ (later - 1) :=
    Nat.pow_le_pow_right (by decide) (Nat.sub_le_sub_right h 1)
  rw [growth_eq_min, growth_eq_min]
  omega

/-- The growth goes on until thirty-two bits are full. -/
theorem growth_lt (first : 1 ≤ retry) (h : retry < later) (doubles : retry ≤ 32) :
    growth retry < growth later := by
  have next : growth retry < growth (retry + 1) := by
    obtain rfl | before := Nat.eq_or_lt_of_le doubles
    · decide
    · rw [growth_of_le doubles, growth_of_le before]
      exact Nat.pow_lt_pow_right (by decide) (by omega)
  exact Nat.lt_of_lt_of_le next (growth_mono h)

/-! ## Draws -/

/-- What a draw adds, when the times are told in so many parts of a millisecond. -/
def jitter (parts base draw : Nat) : Nat := draw % max (base / parts) 1 * parts

variable {parts base most draw : Nat}

@[simp] theorem jitter_zero (parts base : Nat) : jitter parts base 0 = 0 := by simp [jitter]

/-- A draw adds less than the first delay. -/
theorem jitter_le (parts base draw : Nat) : jitter parts base draw ≤ base := by
  have drawn : draw % max (base / parts) 1 ≤ base / parts := by
    have below : draw % max (base / parts) 1 < max (base / parts) 1 :=
      Nat.mod_lt draw (Nat.lt_of_lt_of_le Nat.one_pos (Nat.le_max_right _ _))
    generalize base / parts = whole at below ⊢
    omega
  calc jitter parts base draw ≤ base / parts * parts := Nat.mul_le_mul_right parts drawn
    _ ≤ base := Nat.div_mul_le_self base parts

/-- No draw adds anything to delays of less than two milliseconds. -/
theorem jitter_of_lt (h : base < 2 * parts) : jitter parts base draw = 0 := by
  have few : base / parts < 2 := Nat.div_lt_of_lt_mul (by rwa [Nat.mul_comm])
  have one : max (base / parts) 1 = 1 := by omega
  simp [jitter, one, Nat.mod_one]

theorem jitter_one_pos (whole : 0 < parts) (h : 2 * parts ≤ base) : 0 < jitter parts base 1 := by
  have many : 2 ≤ base / parts := (Nat.le_div_iff_mul_le whole).2 h
  rw [jitter, Nat.max_eq_left (by omega), Nat.mod_eq_of_lt (by omega)]
  omega

/-! ## Delays -/

/-- What holds of the delays of a backoff by their repetitions and draws. None is longer than the
longest, and none is shorter than what the first one has grown to. None is shorter than an earlier
one, whatever is drawn, exactly if the first one still grows after the earlier one, no draw adds
anything or the longest delay is reached. -/
structure BacksOff (parts base most : Nat) (delay : Nat → Nat → Nat) : Prop where
  le_most : ∀ retry draw, delay retry draw ≤ most
  grown_le : ∀ retry draw, 1 ≤ retry →
    min most (base * min (2 ^ (retry - 1)) (2 ^ 32 - 1)) ≤ delay retry draw
  le_later_iff : ∀ retry later, 1 ≤ retry → retry < later →
    ((∀ draw draw', delay retry draw ≤ delay later draw') ↔
      retry ≤ 32 ∨ base < 2 * parts ∨ most ≤ base * (2 ^ 32 - 1))

/-- Whatever is drawn, a delay is at most a later one while the first delay grows. -/
theorem add_jitter_le (first : 1 ≤ retry) (h : retry < later) (doubles : retry ≤ 32) :
    base * growth retry + jitter parts base draw ≤ base * growth later :=
  calc base * growth retry + jitter parts base draw ≤ base * growth retry + base :=
        Nat.add_le_add_left (jitter_le parts base draw) _
    _ = base * (growth retry + 1) := (Nat.mul_succ base _).symm
    _ ≤ base * growth later := Nat.mul_le_mul_left base (growth_lt first h doubles)

theorem backsOff_of_eq {delay : Nat → Nat → Nat} (whole : 0 < parts)
    (h : ∀ retry draw, delay retry draw =
      min most (base * growth retry + jitter parts base draw)) :
    BacksOff parts base most delay := by
  refine ⟨fun retry draw => ?_, fun retry draw _ => ?_, fun retry later first after => ⟨?_, ?_⟩⟩
  · rw [h]
    exact Nat.min_le_left _ _
  · rw [h, ← growth_eq_min]
    omega
  · intro grows
    refine Decidable.byContradiction fun stands => ?_
    simp only [not_or, Nat.not_le, Nat.not_lt] at stands
    obtain ⟨full, draws, room⟩ := stands
    -- the growth is the same, so the draws decide
    have shrinks := grows 1 0
    rw [h, h, growth_of_lt full, growth_of_lt (Nat.lt_trans full after), jitter_zero] at shrinks
    have := jitter_one_pos whole draws
    omega
  · intro grows draw draw'
    rw [h, h]
    by_cases doubles : retry ≤ 32
    · have margin : base * growth retry + jitter parts base draw ≤ base * growth later :=
        add_jitter_le first after doubles
      omega
    · obtain still | short | reached := grows
      · exact absurd still doubles
      · have := Nat.mul_le_mul_left base (growth_mono (Nat.le_of_lt after))
        rw [jitter_of_lt short, jitter_of_lt short]
        omega
      · rw [growth_of_lt (show 32 < later by omega)]
        omega

/-- A longest delay of less than 2^64 milliseconds is reached before the longest time there is. -/
theorem backoffDelay_eq (told : most < 2 ^ 64 * millisecond) (retry draw : Nat) :
    backoffDelay base most retry draw =
      min most (base * growth retry + jitter millisecond base draw) := by
  have : 2 ^ 64 * millisecond ≤ longest := by decide
  simp only [backoffDelay, jitter]
  omega

theorem retryDelay_backoff (interval : Nat) (told : most < 2 ^ 64) (retry draw : Nat) :
    (backoff interval base most).retryDelay retry draw =
      min most (base * growth retry + jitter 1 base draw) := by
  have whole : 0 < millisecond := by decide
  have draws : jitter millisecond (base * millisecond) draw = jitter 1 base draw * millisecond := by
    simp [jitter, Nat.mul_div_cancel base whole]
  have parts : base * millisecond * growth retry + jitter 1 base draw * millisecond =
      (base * growth retry + jitter 1 base draw) * millisecond := by
    rw [Nat.add_mul, Nat.mul_right_comm]
  rw [retryDelay, backoffDelay_eq (Nat.mul_lt_mul_of_pos_right told whole), draws, parts,
    Nat.mul_min_mul_right, Nat.mul_div_cancel _ whole]

/-- A backoff backs off, whether its delays are told in nanoseconds or in milliseconds. -/
theorem backoff_delays (interval base most : Nat) :
    (most < 2 ^ 64 * millisecond → BacksOff millisecond base most (backoffDelay base most)) ∧
      (most < 2 ^ 64 → BacksOff 1 base most (backoff interval base most).retryDelay) :=
  ⟨fun told => backsOff_of_eq (by decide) (backoffDelay_eq told),
    fun told => backsOff_of_eq Nat.one_pos (retryDelay_backoff interval told)⟩

/-- The delays of a benchmark never shrink: their longest, a minute, is reached as they grow. -/
theorem backoff_delays_of_benchmark :
    (60000 * millisecond < 2 ^ 64 * millisecond ∧
      BacksOff millisecond (2000 * millisecond) (60000 * millisecond)
        (backoffDelay (2000 * millisecond) (60000 * millisecond))) ∧
    60000 < 2 ^ 64 ∧ ∀ retry later draw draw', 1 ≤ retry → retry < later →
      (backoff 1000 2000 60000).retryDelay retry draw ≤
        (backoff 1000 2000 60000).retryDelay later draw' := by
  have told : 60000 * millisecond < 2 ^ 64 * millisecond := by decide
  have told' : 60000 < 2 ^ 64 := by decide
  have benchmark := (backoff_delays 1000 2000 60000).2 told'
  exact ⟨⟨told, (backoff_delays 0 (2000 * millisecond) (60000 * millisecond)).1 told⟩, told',
    fun retry later draw draw' first after =>
      (benchmark.le_later_iff retry later first after).2 (.inr (.inr (by decide))) draw draw'⟩

/-- The doubling has stopped after the thirty-third delay, and the next one is shorter when less is
drawn. -/
theorem delay_shrinks_past_doubling :
    (backoff 0 2000 (2 ^ 64 - 1)).retryDelay 34 0 <
      (backoff 0 2000 (2 ^ 64 - 1)).retryDelay 33 1 := by
  decide

end Mutagenesis.Throttle
