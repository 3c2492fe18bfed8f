import Mutagenesis.Proofs.Json.Numbers
import Mutagenesis.Proofs.Number.Shortest

/-!
# Written numbers tell doubles apart

The text of a finite double stands for its shortest decimal, whichever of the forms it takes, and
that decimal lies in the rounding interval of this double alone. So two finite doubles have the same
text only when they have the same bits.
-/
namespace Mutagenesis

open Text (numeral digitsValue isDigit)

/-! ## The values of digits -/

namespace Text

theorem digitsValue_append_list (cs ds : List Char) :
    digitsValue (cs ++ ds) = digitsValue cs * 10 ^ ds.length + digitsValue ds := by
  induction ds using List.reverseRecOn with
  | nil => simp [digitsValue]
  | append_singleton ds d ih =>
      rw [← List.append_assoc, digitsValue_append, digitsValue_append, ih, List.length_append,
        List.length_singleton, pow_succ]
      ring

theorem digitsValue_zeros (n : Nat) : digitsValue (List.replicate n '0') = 0 := by
  induction n with
  | zero => rfl
  | succ n ih =>
      rw [List.replicate_succ', digitsValue_append, ih]
      rfl

end Text

/-! ## The numbers that texts stand for -/

namespace Decimal

/-- Whether a character is neither a point nor the letter before an exponent. -/
def IsPlain (c : Char) : Prop := c ≠ '.' ∧ c ≠ 'e'

/-- The number for which digits with a point between them stand. -/
def pointValue (cs : List Char) : ℚ :=
  let whole := cs.takeWhile (· ≠ '.')
  let fraction := (cs.dropWhile (· ≠ '.')).tail
  digitsValue (whole ++ fraction) / 10 ^ fraction.length

/-- The exponent that a letter and a sign introduce. -/
def exponentValue : List Char → Int
  | _ :: '-' :: digits => -digitsValue digits
  | _ :: _ :: digits => digitsValue digits
  | _ => 0

/-- The number for which digits with a point and an exponent stand. -/
def textValue (cs : List Char) : ℚ :=
  pointValue (cs.takeWhile (· ≠ 'e')) * 10 ^ exponentValue (cs.dropWhile (· ≠ 'e'))

theorem pointValue_point {whole fraction : List Char} (h : ∀ c ∈ whole, c ≠ '.') :
    pointValue (whole ++ '.' :: fraction) =
      digitsValue (whole ++ fraction) / 10 ^ fraction.length := by
  have plain : ∀ c ∈ whole, decide (c ≠ '.') = true := by simpa using h
  simp only [pointValue, List.takeWhile_append_of_pos plain, List.dropWhile_append_of_pos plain]
  simp

theorem pointValue_whole {whole : List Char} (h : ∀ c ∈ whole, c ≠ '.') :
    pointValue whole = digitsValue whole := by
  have plain : ∀ c ∈ whole, decide (c ≠ '.') = true := by simpa using h
  simp only [pointValue, List.takeWhile_eq_self_iff.2 plain, List.dropWhile_eq_nil_iff.2 plain]
  simp

theorem textValue_plain {cs : List Char} (h : ∀ c ∈ cs, c ≠ 'e') :
    textValue cs = pointValue cs := by
  have plain : ∀ c ∈ cs, decide (c ≠ 'e') = true := by simpa using h
  have none : exponentValue [] = 0 := rfl
  rw [textValue, List.takeWhile_eq_self_iff.2 plain, List.dropWhile_eq_nil_iff.2 plain, none,
    zpow_zero, mul_one]

theorem textValue_exponent {cs digits : List Char} (h : ∀ c ∈ cs, c ≠ 'e') (sign : Char) :
    textValue (cs ++ 'e' :: sign :: digits) =
      pointValue cs * 10 ^ (if sign = '-' then -(digitsValue digits : Int)
        else digitsValue digits) := by
  have plain : ∀ c ∈ cs, decide (c ≠ 'e') = true := by simpa using h
  have exponent : exponentValue ('e' :: sign :: digits) =
      if sign = '-' then -(digitsValue digits : Int) else digitsValue digits := by
    split
    next minus => rw [minus, exponentValue]
    next minus =>
      unfold exponentValue
      split
      next heq => simp_all
      next heq => simp_all
      next heq => simp_all
  rw [textValue, List.takeWhile_append_of_pos plain, List.dropWhile_append_of_pos plain]
  simp [exponent]

theorem isPlain_of_mem_numeral {n : Nat} {c : Char} (h : c ∈ numeral n) : IsPlain c := by
  have digit := Text.isDigit_of_mem_numeral h
  constructor <;> rintro rfl <;> revert digit <;> decide

/-- Digits with a point stand for their number scaled to the place of the point. -/
theorem pointValue_positional {digits : List Char} (plain : ∀ c ∈ digits, IsPlain c) (point : Int) :
    pointValue (Binary64.positional digits point ".0".toList) =
      digitsValue digits * 10 ^ (point - digits.length) := by
  unfold Binary64.positional
  split
  next leading =>
    have parts : ['0', '.'] ++ List.replicate (-point).toNat '0' ++ digits =
      ['0'] ++ '.' :: (List.replicate (-point).toNat '0' ++ digits) := by simp
    have zero : digitsValue ['0'] = 0 := rfl
    have shift : point - digits.length = -((-point).toNat + digits.length : Nat) := by
      push_cast
      omega
    rw [parts, pointValue_point (by simp), Text.digitsValue_append_list, zero,
      Text.digitsValue_append_list, Text.digitsValue_zeros, List.length_append,
      List.length_replicate, shift, zpow_neg, zpow_natCast]
    simp [div_eq_mul_inv]
  next =>
    dsimp only
    split
    next trailing =>
      have parts : ".0".toList = '.' :: ['0'] := by decide
      have zero : digitsValue ['0'] = 0 := rfl
      have shift : point - digits.length = (point.toNat - digits.length : Nat) := by omega
      have whole : ∀ c ∈ digits ++ List.replicate (point.toNat - digits.length) '0', c ≠ '.' := by
        intro c hc
        obtain hc | hc := List.mem_append.1 hc
        · exact (plain c hc).1
        · rw [List.eq_of_mem_replicate hc]
          decide
      rw [parts, pointValue_point whole, Text.digitsValue_append_list,
        Text.digitsValue_append_list, Text.digitsValue_zeros, zero, List.length_replicate, shift,
        zpow_natCast]
      simp
    next within =>
      have shift : point - digits.length = -((digits.drop point.toNat).length : Int) := by
        rw [List.length_drop]
        omega
      rw [pointValue_point fun c hc => (plain c (List.mem_of_mem_take hc)).1,
        List.take_append_drop, shift, zpow_neg, zpow_natCast, div_eq_mul_inv]

/-- The digits with a point after the first of them, when others follow it. -/
def leading : List Char → List Char
  | [] => []
  | [digit] => [digit]
  | digit :: rest => digit :: '.' :: rest

theorem mem_leading {digits : List Char} {c : Char} (h : c ∈ leading digits) :
    c ∈ digits ∨ c = '.' := by
  unfold leading at h
  split at h
  next => exact .inl h
  next => exact .inl h
  next digit rest _ =>
    simp only [List.mem_cons] at h ⊢
    tauto

theorem pointValue_leading {digits : List Char} (plain : ∀ c ∈ digits, IsPlain c) :
    pointValue (leading digits) = digitsValue digits * 10 ^ (1 - digits.length : Int) := by
  match digits, plain with
  | [], _ => simp [leading, pointValue, digitsValue]
  | [digit], plain =>
      rw [leading, pointValue_whole fun c hc => (plain c hc).1]
      simp
  | digit :: second :: rest, plain =>
      have first : ∀ c ∈ [digit], c ≠ '.' := by simpa using (plain digit List.mem_cons_self).1
      have parts : leading (digit :: second :: rest) = [digit] ++ '.' :: (second :: rest) := rfl
      have shift : (1 - (digit :: second :: rest).length : Int) = -((second :: rest).length) := by
        simp only [List.length_cons]
        omega
      rw [parts, pointValue_point first, shift, zpow_neg, zpow_natCast, div_eq_mul_inv,
        List.singleton_append]

/-- Numbers with digits begin with one in either form. -/
theorem head?_positional {c : Char} {cs : List Char} (h : isDigit c = true) (point : Int)
    (fraction : List Char) :
    ∃ d ∈ (Binary64.positional (c :: cs) point fraction).head?, isDigit d = true := by
  unfold Binary64.positional
  split
  next => exact ⟨'0', rfl, rfl⟩
  next positive =>
    dsimp only
    split
    next => exact ⟨c, rfl, h⟩
    next =>
      obtain ⟨k, hk⟩ : ∃ k, point.toNat = k + 1 := ⟨point.toNat - 1, by omega⟩
      rw [hk]
      exact ⟨c, rfl, h⟩

theorem head?_leading {c : Char} {cs : List Char} : (leading (c :: cs)).head? = some c := by
  cases cs <;> rfl

/-- A decimal written with its point in place stands for its value. -/
theorem textValue_positional (d : Decimal) :
    textValue (Binary64.positional d.digits d.pointPosition ".0".toList) = d.value := by
  have plain : ∀ c ∈ d.digits, IsPlain c := fun c hc => isPlain_of_mem_numeral hc
  have coefficient : digitsValue d.digits = d.coefficient := Text.digitsValue_numeral _
  have noExponent : ∀ c ∈ Binary64.positional d.digits d.pointPosition ".0".toList, c ≠ 'e' := by
    intro c hc
    obtain hc | hc | rfl | rfl := Json.mem_positional hc
    · exact (plain c hc).2
    · have : ∀ c ∈ ".0".toList, c ≠ 'e' := by simp
      exact this c hc
    · decide
    · decide
  rw [textValue_plain noExponent, pointValue_positional plain, coefficient, value, pointPosition,
    add_sub_cancel_left]

/-- The sign that is written before an exponent is its own. -/
theorem signed_natAbs (k : Int) : (if (if k < 0 then '-' else '+') = '-' then
    -(k.natAbs : Int) else k.natAbs) = k := by
  split
  next =>
    rw [if_pos rfl]
    omega
  next =>
    rw [if_neg (by decide)]
    omega

/-- So does a decimal written with an exponent. -/
theorem textValue_scientific (d : Decimal) :
    textValue (leading d.digits ++ 'e' :: (if d.pointPosition - 1 < 0 then '-' else '+') ::
      numeral (d.pointPosition - 1).natAbs) = d.value := by
  have plain : ∀ c ∈ d.digits, IsPlain c := fun c hc => isPlain_of_mem_numeral hc
  have coefficient : digitsValue d.digits = d.coefficient := Text.digitsValue_numeral _
  have noExponent : ∀ c ∈ leading d.digits, c ≠ 'e' := by
    intro c hc
    obtain hc | rfl := mem_leading hc
    · exact (plain c hc).2
    · decide
  rw [textValue_exponent noExponent, pointValue_leading plain, coefficient,
    Text.digitsValue_numeral, signed_natAbs, value, mul_assoc, ← zpow_add₀ (by norm_num),
    pointPosition]
  congr 2
  ring

end Decimal

namespace Binary64

open Decimal

/-- The text of a finite double is its sign and digits that stand for its shortest decimal. -/
theorem exists_unsigned {x : Binary64} (h : x.isFinite = true) :
    ∃ unsigned, x.dataText = (if x.isNegative then ['-'] else []) ++ unsigned ∧
      (∃ c ∈ unsigned.head?, isDigit c = true) ∧
      textValue unsigned = if x.isZero then 0 else (x.shortest .toEven).value := by
  unfold dataText
  dsimp only
  rw [if_neg (by simp [h])]
  by_cases zero : x.isZero = true
  · rw [if_pos zero, if_pos zero]
    have value : textValue "0.0".toList = 0 := by
      rw [textValue_plain (by simp), show "0.0".toList = ['0'] ++ '.' :: ['0'] by decide,
        pointValue_point (by simp)]
      simp [digitsValue, Text.digitValue?]
    exact ⟨_, rfl, ⟨'0', rfl, rfl⟩, value⟩
  · rw [if_neg zero, if_neg zero]
    generalize x.shortest .toEven = d
    obtain ⟨first, rest, digits⟩ := List.exists_cons_of_ne_nil (Text.numeral_ne_nil d.coefficient)
    have digit : isDigit first = true :=
      Text.isDigit_of_mem_numeral (digits ▸ List.mem_cons_self)
    split
    next =>
      refine ⟨_, rfl, ?_, d.textValue_positional⟩
      rw [Decimal.digits, digits]
      exact head?_positional digit _ _
    next =>
      refine ⟨leading d.digits ++ 'e' :: (if d.pointPosition - 1 < 0 then '-' else '+') ::
        numeral (d.pointPosition - 1).natAbs, ?_, ?_, d.textValue_scientific⟩
      · rw [List.append_assoc, List.append_assoc]
        rfl
      · refine ⟨first, ?_, digit⟩
        rw [List.head?_append, Decimal.digits, digits, head?_leading]
        rfl

/-- A text that begins with a digit is no other text with a sign. -/
theorem sign_eq {a b : Bool} {cs ds : List Char} (hc : ∃ c ∈ cs.head?, isDigit c = true)
    (hd : ∃ c ∈ ds.head?, isDigit c = true)
    (h : (if a then ['-'] else []) ++ cs = (if b then ['-'] else []) ++ ds) : a = b ∧ cs = ds := by
  have unsigned : ∀ {cs ds : List Char}, (∃ c ∈ cs.head?, isDigit c = true) → cs ≠ '-' :: ds := by
    rintro cs ds ⟨c, hc, digit⟩ rfl
    obtain rfl : '-' = c := Option.some.inj hc
    revert digit
    decide
  cases a <;> cases b
  · exact ⟨rfl, h⟩
  · exact absurd h (unsigned hc)
  · exact absurd h.symm (unsigned hd)
  · exact ⟨rfl, (List.cons.inj h).2⟩

/-- Finite doubles with the same text have the same bits. -/
theorem dataText_injective {x y : Binary64} (hx : x.isFinite = true) (hy : y.isFinite = true)
    (same : x.dataText = y.dataText) : x = y := by
  obtain ⟨cs, hcs, xDigit, xValue⟩ := exists_unsigned hx
  obtain ⟨ds, hds, yDigit, yValue⟩ := exists_unsigned hy
  rw [hcs, hds] at same
  obtain ⟨sign, rfl⟩ := sign_eq xDigit yDigit same
  have value := xValue.symm.trans yValue
  refine eq_of_rank_eq sign ?_
  have zero : ∀ {z : Binary64}, z.isZero = true → z.rank = 0 := by
    intro z hz
    simp only [isZero, Bool.and_eq_true, decide_eq_true_eq] at hz
    rw [rank_eq, hz.1, hz.2, Nat.zero_mul]
  cases xZero : x.isZero <;> cases yZero : y.isZero
  · simp only [xZero, yZero, Bool.false_eq_true, if_false] at value
    have inside := contains_shortest xZero .toEven
    rw [value] at inside
    exact rank_eq_of_contains inside (contains_shortest yZero .toEven)
  · simp only [xZero, yZero, Bool.false_eq_true, if_false, if_true] at value
    exact absurd value (pos_of_contains xZero (contains_shortest xZero .toEven)).ne'
  · simp only [xZero, yZero, Bool.false_eq_true, if_false, if_true] at value
    exact absurd value.symm (pos_of_contains yZero (contains_shortest yZero .toEven)).ne'
  · rw [zero xZero, zero yZero]

end Binary64

end Mutagenesis
