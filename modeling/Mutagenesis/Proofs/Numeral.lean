import Mutagenesis.Text.Decimal

/-!
# Numerals

The numeral of a number is a run of digits without a leading zero, and its value is the number. A
text is read as a number when it is a run of digits, and as the number that these write.
-/
namespace Mutagenesis.Text

theorem digitValue?_digitChar {d : Nat} (h : d < 10) : digitValue? (digitChar d) = some d := by
  have all : ∀ d < 10, digitValue? (digitChar d) = some d := by decide
  exact all d h

theorem hexValue?_digitChar {d : Nat} (h : d < 16) : hexValue? (digitChar d) = some d := by
  have all : ∀ d < 16, hexValue? (digitChar d) = some d := by decide
  exact all d h

theorem digitChar_ne_zero {d : Nat} (h : d < 10) (hd : d ≠ 0) : digitChar d ≠ '0' := by
  have all : ∀ d < 10, d ≠ 0 → digitChar d ≠ '0' := by decide
  exact all d h hd

theorem numeral_of_lt {n : Nat} (h : n < 10) : numeral n = [digitChar n] := by
  rw [numeral, digitsIn, dif_pos (.inr h)]

theorem numeral_of_le {n : Nat} (h : 10 ≤ n) :
    numeral n = numeral (n / 10) ++ [digitChar (n % 10)] := by
  rw [numeral, digitsIn, dif_neg (by omega)]
  rfl

/-- A number is a digit, or another number with a digit after it. -/
theorem numeral_induction {motive : Nat → Prop} (digit : ∀ n < 10, motive n)
    (append : ∀ n, 10 ≤ n → motive (n / 10) → motive n) (n : Nat) : motive n := by
  induction n using Nat.strongRecOn with
  | ind n ih =>
      by_cases h : n < 10
      · exact digit n h
      · exact append n (by omega) (ih (n / 10) (by omega))

theorem numeral_ne_nil (n : Nat) : numeral n ≠ [] := by
  by_cases h : n < 10
  · simp [numeral_of_lt h]
  · simp [numeral_of_le (Nat.le_of_not_lt h)]

theorem exists_digit_of_mem_numeral {n : Nat} {c : Char} (h : c ∈ numeral n) :
    ∃ d < 10, c = digitChar d := by
  induction n using numeral_induction with
  | digit n hn =>
      rw [numeral_of_lt hn, List.mem_singleton] at h
      exact ⟨n, hn, h⟩
  | append n hn ih =>
      rw [numeral_of_le hn, List.mem_append, List.mem_singleton] at h
      obtain h | rfl := h
      · exact ih h
      · exact ⟨n % 10, Nat.mod_lt n (by omega), rfl⟩

theorem isDigit_of_mem_numeral {n : Nat} {c : Char} (h : c ∈ numeral n) : isDigit c = true := by
  obtain ⟨d, hd, rfl⟩ := exists_digit_of_mem_numeral h
  simp [isDigit, digitValue?_digitChar hd]

/-- Only the numeral of zero begins with a zero. -/
theorem head?_numeral {n : Nat} (h : n ≠ 0) : (numeral n).head? ≠ some '0' := by
  induction n using numeral_induction with
  | digit n hn => simpa [numeral_of_lt hn] using digitChar_ne_zero hn h
  | append n hn ih =>
      have := ih (by omega)
      rw [numeral_of_le hn, List.head?_append]
      cases hhead : (numeral (n / 10)).head? with
      | none => exact absurd (List.head?_eq_none_iff.1 hhead) (numeral_ne_nil _)
      | some c => simpa [hhead] using this

theorem digitsValue_append (cs : List Char) (c : Char) :
    digitsValue (cs ++ [c]) = 10 * digitsValue cs + (digitValue? c).getD 0 := by
  simp [digitsValue]

/-- The value of the numeral of a number is the number. -/
@[simp] theorem digitsValue_numeral (n : Nat) : digitsValue (numeral n) = n := by
  induction n using numeral_induction with
  | digit n hn => simp [numeral_of_lt hn, digitsValue, digitValue?_digitChar hn]
  | append n hn ih =>
      rw [numeral_of_le hn, digitsValue_append, ih,
        digitValue?_digitChar (Nat.mod_lt n (by omega)), Option.getD_some]
      omega

theorem numeral_injective {m n : Nat} (h : numeral m = numeral n) : m = n := by
  rw [← digitsValue_numeral m, h, digitsValue_numeral]

/-! ## Reading -/

theorem digitValue?_eq (c : Char) :
    digitValue? c = if c.isDigit then some (c.toNat - '0'.toNat) else none := by
  have same : ('0' ≤ c ∧ c ≤ '9') ↔ c.isDigit = true := by
    simp [Char.isDigit, Char.le_def]
  simp only [digitValue?, same]
  rfl

theorem valueFrom_eq_some_iff {seen n : Nat} {cs : List Char} :
    valueFrom seen cs = some n ↔
      (∀ c ∈ cs, c.isDigit = true) ∧ Nat.ofDigitChars 10 cs seen = n := by
  induction cs generalizing seen with
  | nil => simp [valueFrom]
  | cons c cs ih =>
      rw [valueFrom, digitValue?_eq, List.forall_mem_cons, Nat.ofDigitChars_cons]
      cases hc : c.isDigit with
      | false => simp
      | true => simpa using ih

/-- Reading takes a run of digits for the number that they write. -/
theorem value?_eq_some_iff {n : Nat} {cs : List Char} :
    value? cs = some n ↔
      cs ≠ [] ∧ (∀ c ∈ cs, c.isDigit = true) ∧ Nat.ofDigitChars 10 cs 0 = n := by
  cases cs with
  | nil => simp [value?]
  | cons c cs => simp [value?, valueFrom_eq_some_iff]

/-- Whether a text writes a number: decimal digits, before which a plus sign may stand. -/
def Writes (cs : List Char) (n : Nat) : Prop :=
  ∃ sign digits, cs = sign ++ digits ∧ (sign = [] ∨ sign = ['+']) ∧ digits ≠ [] ∧
    (∀ c ∈ digits, c.isDigit = true) ∧ Nat.ofDigitChars 10 digits 0 = n

/-- The digits are all that is left of the text, unless it begins with a plus sign. -/
theorem unsigned?_eq_some_iff {most n : Nat} {cs : List Char} :
    unsigned? most cs = some n ↔ Writes cs n ∧ n ≤ most := by
  have limited : ∀ m : Option Nat, (m.bind fun m => if m ≤ most then some m else none) = some n ↔
      m = some n ∧ n ≤ most := by
    intro m
    cases m with
    | none => simp
    | some m =>
        simp only [Option.bind_some, Option.ite_none_right_eq_some, Option.some.injEq]
        exact ⟨fun ⟨le, same⟩ => ⟨same, same ▸ le⟩, fun ⟨same, le⟩ => ⟨same ▸ le, same⟩⟩
  constructor
  · intro h
    unfold unsigned? at h
    split at h
    next rest =>
      obtain ⟨value, le⟩ := (limited _).1 h
      exact ⟨⟨['+'], rest, rfl, .inr rfl, value?_eq_some_iff.1 value⟩, le⟩
    next =>
      obtain ⟨value, le⟩ := (limited _).1 h
      exact ⟨⟨[], cs, rfl, .inl rfl, value?_eq_some_iff.1 value⟩, le⟩
  · rintro ⟨⟨sign, digits, rfl, rfl | rfl, written⟩, le⟩
    · unfold unsigned?
      split
      next rest plus =>
        have digit : '+'.isDigit = true := written.2.1 '+' (by simp_all)
        simp at digit
      next => exact (limited _).2 ⟨value?_eq_some_iff.2 written, le⟩
    · exact (limited _).2 ⟨value?_eq_some_iff.2 written, le⟩

end Mutagenesis.Text
