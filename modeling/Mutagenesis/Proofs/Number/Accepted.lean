import Mutagenesis.Proofs.Json.Numerals
import Mutagenesis.Proofs.Json.Reading
import Mutagenesis.Proofs.Number.Text
import Mutagenesis.Proofs.Results

/-!
# Written numbers are accepted

The text of a double of a sensible size is read as a double, though not always as the same one: its
digits are few enough and its exponent small enough for the reader to scale them.
-/
namespace Mutagenesis

open Text (numeral digitValue? digitsValue isDigit)

/-! ## Numerals that stand for a number -/

namespace Binary64

/-- Scaling down always has a result. -/
theorem isSome_scale? (steps : Nat) (x : Binary64) {e : Int} (down : e < 0) :
    (scale? steps x e).isSome = true := by
  induction steps generalizing x e with
  | zero => rfl
  | succ steps ih =>
      have noScale : ¬0 ≤ e := by omega
      rw [scale?]
      by_cases near : e.natAbs ≤ 308
      · simp [near, noScale]
      rw [if_neg near]
      by_cases zero : x.isZero = true
      · simp [zero]
      rw [if_neg zero, if_neg noScale]
      exact ih _ (by omega)

theorem isSome_ofScaled? (negative : Bool) (n : Nat) {e : Int} (down : e < 0) :
    (ofScaled? negative n e).isSome = true := by
  rw [ofScaled?, Option.isSome_map]
  exact isSome_scale? _ _ down

end Binary64

namespace Json

theorem digitValue_le {c : Char} (h : isDigit c = true) : (digitValue? c).getD 0 ≤ 9 := by
  simp only [isDigit, digitValue?] at h ⊢
  split at h
  next range =>
    have most : c.toNat ≤ 57 := range.2
    rw [if_pos range, Option.getD_some]
    omega
  next => simp at h

theorem length_continued_le (n : Nat) (cs : List Char) : (continued n cs).2.length ≤ cs.length := by
  induction cs generalizing n with
  | nil => exact le_rfl
  | cons c cs ih =>
      simp only [continued]
      split
      next => exact (ih _).trans (Nat.le_succ _)
      next => exact le_rfl

/-- A digit that still fits is taken. -/
theorem length_continued_lt {n : Nat} (small : n ≤ 9) {c : Char} (digit : isDigit c = true)
    (cs : List Char) : (continued n (c :: cs)).2.length < (c :: cs).length := by
  have digit := digitValue_le digit
  rw [continued, if_pos (by omega)]
  exact Nat.lt_succ_of_le (length_continued_le _ cs)

/-- A single digit with a fraction or scaled down, or both, stands for a number. -/
theorem Numeral.isSome_value? {c : Char} {ds : List Char} {e : Option (Bool × List Char)}
    (digit : isDigit c = true) (digits : ∀ d ∈ ds, isDigit d = true)
    (down : ∀ x ∈ e, x.1 = true ∧ 0 < digitsValue x.2) (some_part : ds ≠ [] ∨ e ≠ none) :
    (⟨false, [c], ds, e⟩ : Numeral).value?.isSome = true := by
  have small := digitValue_le digit
  have one : continued 0 [c] = ((digitValue? c).getD 0, []) := by
    rw [continued, if_pos (by omega), continued, Nat.mul_zero, Nat.zero_add]
  have used : ds ≠ [] → (continued ((digitValue? c).getD 0) ds).2.length < ds.length := by
    intro nonempty
    obtain ⟨d, ds, rfl⟩ := List.exists_cons_of_ne_nil nonempty
    exact length_continued_lt small (digits d List.mem_cons_self) ds
  have fits : fitting [c] ds = ((continued ((digitValue? c).getD 0) ds).1, 0,
      ds.length - (continued ((digitValue? c).getD 0) ds).2.length) := by
    simp [fitting, one]
  have noInteger : (ds.isEmpty && e.isNone) = false := by
    rcases some_part with h | h
    · simp [h]
    · simp [Option.isNone_eq_false_iff.2 (Option.isSome_iff_ne_none.2 h)]
  rw [Numeral.value?]
  simp only [fits, noInteger, Bool.false_and, Bool.false_eq_true, if_false]
  -- a fraction takes at least one digit more, so there is a step down with or without an exponent
  have scaled : ∀ k : Int, (ds ≠ [] → k ≤ 0) → (ds = [] → k < 0) →
      ((0 : Nat) : Int) -
        (ds.length - (continued ((digitValue? c).getD 0) ds).2.length : Nat) + k < 0 := by
    intro k le lt
    by_cases empty : ds = []
    · have := lt empty
      omega
    · have := le empty
      have := used empty
      omega
  cases e with
  | none =>
      have nonempty : ds ≠ [] := by simpa using some_part
      exact (Option.isSome_map ..).trans (Binary64.isSome_ofScaled? false _
        (scaled 0 (fun _ => le_rfl) (fun empty => absurd empty nonempty)))
  | some x =>
      obtain ⟨negative, exponent⟩ := x
      obtain ⟨rfl, positive⟩ := down _ rfl
      simp only [Numeral.exponent?]
      split
      next k hk =>
        have value : k = -(digitsValue exponent : Int) := by
          split at hk
          · simp at hk
          · simpa [eq_comm] using hk
        have below : k < 0 := by
          rw [value]
          exact neg_neg_of_pos (by exact_mod_cast positive)
        exact (Option.isSome_map ..).trans
          (Binary64.isSome_ofScaled? false _ (scaled k (fun _ => below.le) (fun _ => below)))
      next => simp

/-- The text of a numeral that stands for a number is read as a double. -/
theorem exists_decode_double {n : Numeral} {text : List Char} (h : n.IsText text)
    (valued : n.value?.isSome = true) : ∃ y, decode double (String.ofList text) = .ok y := by
  obtain ⟨m, value⟩ := Option.isSome_iff_exists.1 valued
  have stops : StopsNumber [] := by simp [StopsNumber]
  obtain ⟨q, read⟩ := h.read stops 0
  obtain ⟨c, cs, hc, first⟩ : ∃ c cs, text = c :: cs ∧ (c = '-' ∨ isDigit c = true) := by
    obtain ⟨whole, point, power, -, -, rfl⟩ := h
    obtain ⟨d, ds, hd⟩ := List.exists_cons_of_ne_nil whole.ne_nil
    cases n.negative with
    | true => exact ⟨'-', _, rfl, .inl rfl⟩
    | false => exact ⟨d, _, by rw [hd]; rfl, .inr (whole.isDigit d (hd ▸ List.mem_cons_self))⟩
  have found : Found.read text = (.num m q, .ok ⟨[], q⟩) := by
    rw [List.append_nil, Numeral.found, value] at read
    rw [Found.read, Text.Place.head, hc, readValue_number first, ← hc, read]
  obtain ⟨y, hy⟩ : ∃ y, double (.num m q) = .ok y := by
    cases m <;> exact ⟨_, rfl⟩
  refine ⟨y, ?_⟩
  simp [decode, found, hy, bind, Except.bind, pure, Except.pure, next,
    Text.Place.passWhile, Text.Place.advance]

end Json

/-! ## The text of a double -/

namespace Decimal

/-- The digits of a decimal below ten have at most one of them before the point. -/
theorem pointPosition_le {d : Decimal} (positive : 0 < d.value) (small : d.value < 10) :
    d.pointPosition ≤ 1 := by
  have some_digit : d.coefficient ≠ 0 := by
    intro zero
    simp [Decimal.value, zero] at positive
  have digits : 0 < d.digits.length := List.length_pos_iff.2 (Text.numeral_ne_nil _)
  have least : (10 : ℚ) ^ (d.digits.length - 1) ≤ d.coefficient := by
    exact_mod_cast Text.pow_length_numeral_le some_digit
  have power : (10 : ℚ) ^ (d.pointPosition - 1) < 10 ^ (1 : ℤ) := by
    calc (10 : ℚ) ^ (d.pointPosition - 1)
        = 10 ^ (d.digits.length - 1) * 10 ^ d.exponent := by
          rw [← zpow_natCast, ← zpow_add₀ (by norm_num), pointPosition]
          congr 1
          omega
      _ ≤ d.value := mul_le_mul_of_nonneg_right least (Binary64.ten_zpow_pos _).le
      _ < 10 ^ (1 : ℤ) := by simpa using small
  have := (zpow_lt_zpow_iff_right₀ (by norm_num : (1 : ℚ) < 10)).1 power
  omega

theorem isWhole_singleton {c : Char} (digit : isDigit c = true) : Json.IsWhole [c] := by
  by_cases zero : c = '0'
  · exact zero ▸ .zero
  · exact .digits digit zero (by simp)

/-- A digit with the digits of a fraction after it stands for a number. -/
theorem isText_of_fraction {c : Char} {ds : List Char} (digit : isDigit c = true)
    (digits : ∀ d ∈ ds, isDigit d = true) (nonempty : ds ≠ []) :
    ∃ n : Json.Numeral, n.IsText (c :: '.' :: ds) ∧ n.value?.isSome = true :=
  ⟨⟨false, [c], ds, none⟩,
    ⟨isWhole_singleton digit, _, _, .digits nonempty digits, .none, by simp⟩,
    Json.Numeral.isSome_value? digit digits (by simp) (.inl nonempty)⟩

/-- How a decimal below ten is written: with one digit before the point. -/
theorem isText_positional {d : Decimal} (small : d.pointPosition ≤ 1) :
    ∃ n : Json.Numeral, n.IsText (Binary64.positional d.digits d.pointPosition ".0".toList) ∧
      n.value?.isSome = true := by
  have digits : ∀ c ∈ d.digits, isDigit c = true := fun c hc => Text.isDigit_of_mem_numeral hc
  obtain ⟨c, cs, hd⟩ := List.exists_cons_of_ne_nil (Text.numeral_ne_nil d.coefficient)
  have hd : d.digits = c :: cs := hd
  rw [hd] at digits ⊢
  rw [List.forall_mem_cons] at digits
  unfold Binary64.positional
  split
  next =>
    refine isText_of_fraction (c := '0') (by decide) ?_ (by simp)
    intro e he
    obtain he | he := List.mem_append.1 he
    · rw [List.eq_of_mem_replicate he]
      decide
    · exact (List.forall_mem_cons (p := fun c => isDigit c = true)).2 digits e he
  next positive =>
    have one : d.pointPosition.toNat = 1 := by omega
    rw [one]
    dsimp only
    split
    next single =>
      obtain rfl : cs = [] := by simpa using single
      exact isText_of_fraction digits.1 (by simp; decide) (by simp)
    next more =>
      have nonempty : cs ≠ [] := by
        rintro rfl
        simp at more
      exact isText_of_fraction digits.1 digits.2 nonempty

/-- How one is written that is smaller still. -/
theorem isText_scientific {d : Decimal} (small : d.pointPosition < 1) :
    ∃ n : Json.Numeral, n.IsText (leading d.digits ++ 'e' :: '-' ::
      numeral (d.pointPosition - 1).natAbs) ∧ n.value?.isSome = true := by
  have digits : ∀ c ∈ d.digits, isDigit c = true := fun c hc => Text.isDigit_of_mem_numeral hc
  obtain ⟨c, cs, hd⟩ := List.exists_cons_of_ne_nil (Text.numeral_ne_nil d.coefficient)
  have hd : d.digits = c :: cs := hd
  rw [hd] at digits ⊢
  rw [List.forall_mem_cons] at digits
  have exponent : Json.IsExponent (some (true, numeral (d.pointPosition - 1).natAbs))
      ('e' :: (['-'] ++ numeral (d.pointPosition - 1).natAbs)) :=
    .digits (.inl rfl) .minus (Text.numeral_ne_nil _) fun c hc => Text.isDigit_of_mem_numeral hc
  have down : ∀ x ∈ some (true, numeral (d.pointPosition - 1).natAbs),
      x.1 = true ∧ 0 < digitsValue x.2 := by
    rintro _ ⟨⟩
    refine ⟨rfl, ?_⟩
    rw [Text.digitsValue_numeral]
    omega
  refine ⟨⟨false, [c], cs, some (true, numeral (d.pointPosition - 1).natAbs)⟩, ?_,
    Json.Numeral.isSome_value? digits.1 digits.2 down (.inr (by simp))⟩
  cases cs with
  | nil => exact ⟨isWhole_singleton digits.1, _, _, .none, exponent, by simp [leading]⟩
  | cons e cs =>
      exact ⟨isWhole_singleton digits.1, _, _, .digits (by simp) digits.2, exponent,
        by simp [leading]⟩

end Decimal

namespace Binary64

theorem high_interval_lt {x : Binary64} (positive : 0 < x.significand)
    (small : x.ratio.1 ≤ 2 * x.ratio.2) : x.interval.high < 10 * x.interval.den := by
  simp only [ratio, interval, Nat.pow_eq] at small ⊢
  by_cases whole : 0 ≤ x.exponent
  · rw [if_pos whole] at small
    obtain ⟨e, he⟩ := Int.eq_ofNat_of_zero_le whole
    rw [he, Int.toNat_natCast] at small
    -- the ends of the interval are in quarters, so the first two steps up only cancel these
    obtain _ | _ | e := e
    · have den : (-(((0 : Nat) : Int) - 2)).toNat = 2 := rfl
      rw [he, if_neg (by decide), den]
      omega
    · have den : (-(((1 : Nat) : Int) - 2)).toNat = 1 := rfl
      rw [he, if_neg (by decide), den]
      omega
    · have four : x.significand * 2 ^ (e + 1 + 1) = 4 * (x.significand * 2 ^ e) := by ring
      have := Nat.mul_pos positive (Nat.two_pow_pos e)
      omega
  · rw [if_neg whole] at small
    have finer : ¬0 ≤ x.exponent - 2 := by omega
    have power : 2 ^ (-(x.exponent - 2)).toNat = 4 * 2 ^ (-x.exponent).toNat := by
      have shift : (-(x.exponent - 2)).toNat = (-x.exponent).toNat + 2 := by omega
      rw [shift, pow_add]
      ring
    have := Nat.two_pow_pos (-x.exponent).toNat
    simp only [if_neg finer, power]
    omega

/-- The shortest decimal of a double of at most two is below ten. -/
theorem value_shortest_lt {x : Binary64} (nonzero : x.isZero = false)
    (small : x.ratio.1 ≤ 2 * x.ratio.2) : (x.shortest .toEven).value < 10 := by
  have den : (0 : ℚ) < x.interval.den := by exact_mod_cast den_interval_pos x
  have high : (x.interval.high : ℚ) < 10 * x.interval.den := by
    exact_mod_cast high_interval_lt (significand_pos nonzero) small
  exact lt_of_mul_lt_mul_right ((contains_shortest nonzero .toEven).bounds.2.trans_lt high) den.le

/-- The reader accepts the text of a double of at most two. -/
theorem exists_readsAs {x : Binary64} (h : x.inUnitRange 2 = true) : ∃ y, Json.ReadsAs x y := by
  simp only [inUnitRange] at h
  split at h
  next => simp at h
  next finite =>
    have finite : x.isFinite = true := by simpa using finite
    have ofText (text : List Char) (same : x.dataText = text)
        (read : ∃ y, Json.decode Json.double (String.ofList text) = .ok y) :
        ∃ y, Json.ReadsAs x y := by
      obtain ⟨y, read⟩ := read
      exact ⟨y, by rw [Json.ReadsAs, same, read]⟩
    cases zero : x.isZero with
    | true =>
        cases sign : x.isNegative with
        | true =>
            exact ofText "-0.0".toList (by simp [dataText, finite, zero, sign])
              ⟨ofParts true 0, eq_ok_of_toOption (by decide +kernel)⟩
        | false =>
            exact ofText "0.0".toList (by simp [dataText, finite, zero, sign])
              ⟨.zero, eq_ok_of_toOption (by decide +kernel)⟩
    | false =>
        have unsigned : x.isNegative = false ∧ x.ratio.1 ≤ 2 * x.ratio.2 := by
          simpa [zero] using h
        have positive := pos_of_contains zero (contains_shortest zero .toEven)
        have point := Decimal.pointPosition_le positive (value_shortest_lt zero unsigned.2)
        by_cases plain : -5 < (x.shortest .toEven).pointPosition
        · obtain ⟨n, isText, valued⟩ := Decimal.isText_positional point
          refine ofText _ ?_ (Json.exists_decode_double isText valued)
          have range : -5 < (x.shortest .toEven).pointPosition ∧
            (x.shortest .toEven).pointPosition ≤ 16 := ⟨plain, by omega⟩
          simp [dataText, finite, zero, unsigned.1, range]
        · obtain ⟨n, isText, valued⟩ := Decimal.isText_scientific
            (d := x.shortest .toEven) (by omega)
          refine ofText _ ?_ (Json.exists_decode_double isText valued)
          have below : (x.shortest .toEven).pointPosition - 1 < 0 := by omega
          unfold dataText
          simp only [finite, zero, unsigned.1, plain, if_pos below, Bool.not_true, false_and,
            Bool.false_eq_true, if_false, List.nil_append, List.append_assoc]
          rfl

end Binary64

end Mutagenesis
