import Mutagenesis.Proofs.Json.Numbers

/-!
# Numerals

A numeral is written with its whole digits, of which the first is no zero unless it stands alone, a
point with the digits of a fraction, and a letter with the sign and the digits of an exponent; the
last two may be left out. Each numeral reads as the number that it stands for, or as none if that is
beyond the range of doubles; either way reading goes on after it.
-/
namespace Mutagenesis.Json

open Text (Place isDigit)

variable {cs rest text : List Char}

/-! ## The parts of a numeral -/

/-- The texts of whole digits. -/
inductive IsWhole : List Char → Prop
  | zero : IsWhole ['0']
  | digits {c : Char} {cs : List Char} (first : isDigit c = true) (nonzero : c ≠ '0')
      (others : ∀ d ∈ cs, isDigit d = true) : IsWhole (c :: cs)

/-- The texts of a fraction with the given digits. -/
inductive IsFraction : List Char → List Char → Prop
  | none : IsFraction [] []
  | digits {ds : List Char} (nonempty : ds ≠ []) (each : ∀ d ∈ ds, isDigit d = true) :
      IsFraction ds ('.' :: ds)

/-- The signs of an exponent, and whether it is negative. -/
inductive IsSign : Bool → List Char → Prop
  | none : IsSign false []
  | plus : IsSign false ['+']
  | minus : IsSign true ['-']

/-- The texts of an exponent with the given sign and digits. -/
inductive IsExponent : Option (Bool × List Char) → List Char → Prop
  | none : IsExponent none []
  | digits {letter : Char} {negative : Bool} {sign ds : List Char}
      (isLetter : letter = 'e' ∨ letter = 'E') (isSign : IsSign negative sign) (nonempty : ds ≠ [])
      (each : ∀ d ∈ ds, isDigit d = true) :
      IsExponent (some (negative, ds)) (letter :: (sign ++ ds))

/-- Whether a text writes a numeral. -/
structure Numeral.IsText (n : Numeral) (text : List Char) : Prop where
  whole : IsWhole n.whole
  parts : ∃ point power, IsFraction n.fraction point ∧ IsExponent n.exponent power ∧
    text = (if n.negative then ['-'] else []) ++ (n.whole ++ (point ++ power))

/-! ## Reading the parts -/

theorem takeWhile_of_digits (digits : ∀ d ∈ cs, isDigit d = true)
    (stops : ∀ c ∈ rest.head?, isDigit c = false) : (cs ++ rest).takeWhile isDigit = cs := by
  rw [takeWhile_append stops, List.takeWhile_eq_self_iff.2 digits]

theorem dropWhile_of_digits (digits : ∀ d ∈ cs, isDigit d = true)
    (stops : ∀ c ∈ rest.head?, isDigit c = false) : (cs ++ rest).dropWhile isDigit = rest := by
  rw [dropWhile_append stops, List.dropWhile_eq_nil_iff.2 digits, List.nil_append]

/-- After the digits at a place. -/
theorem passWhile_digits {p : Place} (digits : ∀ d ∈ cs, isDigit d = true)
    (stops : ∀ c ∈ rest.head?, isDigit c = false) (h : p.rest = cs ++ rest) :
    ∃ q, p.passWhile isDigit = ⟨rest, q⟩ :=
  exists_place (by rw [rest_passWhile, h, dropWhile_of_digits digits stops])

theorem IsWhole.ne_nil (h : IsWhole cs) : cs ≠ [] := by
  cases h <;> simp

theorem IsWhole.isDigit (h : IsWhole cs) : ∀ c ∈ cs, isDigit c = true := by
  cases h with
  | zero => simp; decide
  | digits first _ others => exact List.forall_mem_cons.2 ⟨first, others⟩

theorem IsWhole.read (h : IsWhole cs) (stops : ∀ c ∈ rest.head?, Text.isDigit c = false) (o : Nat) :
    ∃ q, wholeDigits ⟨cs ++ rest, o⟩ = .ok (cs, ⟨rest, q⟩) := by
  cases h with
  | zero =>
      have alone : ¬(rest.head?.map Text.isDigit).getD false = true := by
        cases rest with
        | nil => simp
        | cons c rest => simp [stops c rfl]
      refine ⟨o + Text.byteSize ['0'], ?_⟩
      simp only [wholeDigits, List.cons_append, List.nil_append, if_true, if_neg alone]
      rfl
  | @digits c cs first nonzero others =>
      have all : ∀ d ∈ c :: cs, Text.isDigit d = true := List.forall_mem_cons.2 ⟨first, others⟩
      obtain ⟨q, hq⟩ := passWhile_digits (p := ⟨c :: cs ++ rest, o⟩) all stops rfl
      have taken := takeWhile_of_digits all stops
      refine ⟨q, ?_⟩
      simp only [List.cons_append] at hq taken ⊢
      simp only [wholeDigits, if_neg nonzero, if_pos first, hq, taken]

theorem IsFraction.read {ds : List Char} (h : IsFraction ds text)
    (stops : ∀ c ∈ rest.head?, Text.isDigit c = false ∧ c ≠ '.') (o : Nat) :
    ∃ q, fractionDigits ⟨text ++ rest, o⟩ = .ok (ds, ⟨rest, q⟩) := by
  cases h with
  | none =>
      refine ⟨o, ?_⟩
      unfold fractionDigits
      split
      next more point => exact absurd rfl (stops '.' (by simp_all)).2
      next => rfl
  | digits nonempty each =>
      have noDigit : ∀ c ∈ rest.head?, Text.isDigit c = false := fun c hc => (stops c hc).1
      obtain ⟨q, hq⟩ :=
        passWhile_digits (p := Place.advance ⟨'.' :: (ds ++ rest), o⟩ 1) each noDigit rfl
      refine ⟨q, ?_⟩
      simp only [fractionDigits, List.cons_append, takeWhile_of_digits each noDigit, hq,
        List.isEmpty_eq_false_iff.2 nonempty, Bool.false_eq_true, if_false]

theorem exponentFrom_of_digits {p : Place} {ds : List Char} (negative : Bool) (nonempty : ds ≠ [])
    (each : ∀ d ∈ ds, isDigit d = true) (stops : ∀ c ∈ rest.head?, isDigit c = false)
    (h : p.rest = ds ++ rest) :
    ∃ q, exponentFrom negative p = .ok (some (negative, ds), ⟨rest, q⟩) := by
  obtain ⟨q, hq⟩ := passWhile_digits each stops h
  refine ⟨q, ?_⟩
  simp only [exponentFrom, h, takeWhile_of_digits each stops, hq,
    List.isEmpty_eq_false_iff.2 nonempty, Bool.false_eq_true, if_false]

theorem IsExponent.read {e : Option (Bool × List Char)} (h : IsExponent e text)
    (stops : StopsNumber rest) (o : Nat) :
    ∃ q, exponentDigits ⟨text ++ rest, o⟩ = .ok (e, ⟨rest, q⟩) := by
  have noDigit : ∀ c ∈ rest.head?, Text.isDigit c = false := fun c hc => (stops c hc).1
  cases h with
  | none =>
      refine ⟨o, ?_⟩
      cases rest with
      | nil => rfl
      | cons c rest => simp [exponentDigits, (stops c rfl).2.2.1, (stops c rfl).2.2.2]
  | @digits letter negative sign ds isLetter isSign nonempty each =>
      simp only [exponentDigits, List.cons_append, if_pos isLetter, List.append_assoc]
      cases isSign with
      | plus => exact exponentFrom_of_digits false nonempty each noDigit rfl
      | minus => exact exponentFrom_of_digits true nonempty each noDigit rfl
      | none =>
          obtain ⟨d, more, rfl⟩ := List.exists_cons_of_ne_nil nonempty
          have digit := each d List.mem_cons_self
          have unsigned : d ≠ '-' ∧ d ≠ '+' := by
            constructor <;> rintro rfl <;> revert digit <;> decide
          split
          next heq => exact absurd (List.cons.inj heq).1 unsigned.1
          next heq => exact absurd (List.cons.inj heq).1 unsigned.2
          next => exact exponentFrom_of_digits false nonempty each noDigit rfl

/-! ## Reading a numeral -/

/-- What a numeral is found to be at the end of it. -/
def Numeral.found (n : Numeral) (stop : Nat) : Found :=
  match n.value? with
  | some m => .num m stop
  | none => .bad ⟨.numberTooLarge, stop⟩ none

theorem head?_append_of {P : Char → Prop} (first : ∀ c ∈ cs.head?, P c)
    (second : ∀ c ∈ rest.head?, P c) : ∀ c ∈ (cs ++ rest).head?, P c := by
  cases cs with
  | nil => exact second
  | cons c cs => exact first

theorem IsExponent.head {e : Option (Bool × List Char)} (h : IsExponent e text) :
    ∀ c ∈ text.head?, isDigit c = false ∧ c ≠ '.' := by
  cases h with
  | none => simp
  | digits isLetter =>
      rintro _ ⟨⟩
      rcases isLetter with rfl | rfl <;> decide

theorem IsFraction.head {ds : List Char} (h : IsFraction ds text) :
    ∀ c ∈ text.head?, isDigit c = false := by
  cases h with
  | none => simp
  | digits =>
      rintro _ ⟨⟩
      decide

/-- A numeral is read where its text ends, whatever it stands for. -/
theorem Numeral.IsText.read {n : Numeral} (h : n.IsText text) (stops : StopsNumber rest) (o : Nat) :
    ∃ q, readNumber ⟨text ++ rest, o⟩ = (n.found q, .ok ⟨rest, q⟩) := by
  obtain ⟨whole, point, power, fraction, exponent, rfl⟩ := h
  have afterPower : ∀ c ∈ (power ++ rest).head?, isDigit c = false ∧ c ≠ '.' :=
    head?_append_of exponent.head fun c hc => ⟨(stops c hc).1, (stops c hc).2.1⟩
  have afterPoint : ∀ c ∈ (point ++ (power ++ rest)).head?, isDigit c = false :=
    head?_append_of fraction.head fun c hc => (afterPower c hc).1
  let text := n.whole ++ (point ++ (power ++ rest))
  have sign :
      decide (((if n.negative then ['-'] else []) ++ text).head? = some '-') = n.negative := by
    cases n.negative with
    | true => rfl
    | false =>
        obtain ⟨c, cs, hc⟩ := List.exists_cons_of_ne_nil whole.ne_nil
        have digit : isDigit c = true := whole.isDigit c (hc ▸ List.mem_cons_self)
        have differ : c ≠ '-' := by
          rintro rfl
          revert digit
          decide
        simpa [text, hc] using differ
  obtain ⟨o₁, start⟩ : ∃ o₁, (if ((if n.negative then ['-'] else []) ++ text).head? = some '-' then
      Place.advance ⟨(if n.negative then ['-'] else []) ++ text, o⟩ 1
      else ⟨(if n.negative then ['-'] else []) ++ text, o⟩) = ⟨text, o₁⟩ := by
    by_cases minus : n.negative = true
    · rw [if_pos minus]
      exact ⟨_, if_pos rfl⟩
    · rw [Bool.eq_false_iff.2 minus, decide_eq_false_iff_not, ← Bool.eq_false_iff.2 minus] at sign
      rw [if_neg sign, if_neg minus]
      exact ⟨o, rfl⟩
  obtain ⟨q₁, hwhole⟩ := whole.read afterPoint o₁
  obtain ⟨q₂, hfraction⟩ := fraction.read afterPower q₁
  obtain ⟨q₃, hexponent⟩ := exponent.read stops q₂
  refine ⟨q₃, ?_⟩
  have same : (if n.negative then ['-'] else []) ++ (n.whole ++ (point ++ power)) ++ rest =
      (if n.negative then ['-'] else []) ++ text := by simp [text]
  rw [same, readNumber_of_digits sign (start ▸ hwhole) hfraction hexponent, Numeral.found]
  split <;> simp_all

end Mutagenesis.Json
