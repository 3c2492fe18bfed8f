import Mathlib.Data.List.TakeWhile
import Mathlib.Tactic.Tauto
import Mutagenesis.Json.Decode
import Mutagenesis.Proofs.Numeral

/-!
# Reading written numbers

A number ends where no digit, point or exponent follows, so what a number reads as does not depend
on the text after it. A natural number reads back from its numeral.
-/
namespace Mutagenesis.Json

open Text (Place isDigit digitValue? numeral)

/-- Whether a text goes on with no character that a number could take in. -/
def StopsNumber (rest : List Char) : Prop :=
  ∀ c ∈ rest.head?, isDigit c = false ∧ c ≠ '.' ∧ c ≠ 'e' ∧ c ≠ 'E'

theorem takeWhile_append {p : Char → Bool} {cs rest : List Char}
    (h : ∀ c ∈ rest.head?, p c = false) : (cs ++ rest).takeWhile p = cs.takeWhile p := by
  induction cs with
  | nil =>
      cases rest with
      | nil => rfl
      | cons c rest => simp [h c rfl]
  | cons c cs ih => by_cases hc : p c <;> simp [hc, ih]

theorem dropWhile_append {p : Char → Bool} {cs rest : List Char}
    (h : ∀ c ∈ rest.head?, p c = false) :
    (cs ++ rest).dropWhile p = cs.dropWhile p ++ rest := by
  induction cs with
  | nil =>
      cases rest with
      | nil => rfl
      | cons c rest => simp [h c rfl]
  | cons c cs ih => by_cases hc : p c <;> simp [hc, ih]

theorem drop_length_takeWhile (p : Char → Bool) (cs : List Char) :
    cs.drop (cs.takeWhile p).length = cs.dropWhile p := by
  induction cs with
  | nil => rfl
  | cons c cs ih => by_cases hc : p c <;> simp [hc, ih]

@[simp] theorem rest_passWhile (p : Place) (q : Char → Bool) :
    (p.passWhile q).rest = p.rest.dropWhile q :=
  drop_length_takeWhile q p.rest

/-- A place is known up to its offset by the text that is left. -/
theorem exists_place {p : Place} {rest : List Char} (h : p.rest = rest) : ∃ q, p = ⟨rest, q⟩ :=
  ⟨p.offset, by rw [← h]⟩

section Locality

variable {cs left rest : List Char} {o q : Nat}

theorem wholeDigits_append {ds : List Char} (stops : StopsNumber rest)
    (h : wholeDigits ⟨cs, o⟩ = .ok (ds, ⟨left, q⟩)) (o' : Nat) :
    ∃ q', wholeDigits ⟨cs ++ rest, o'⟩ = .ok (ds, ⟨left ++ rest, q'⟩) := by
  obtain _ | ⟨c, cs⟩ := cs
  · simp [wholeDigits] at h
  have noDigit : ∀ c ∈ rest.head?, isDigit c = false := fun c hc => (stops c hc).1
  simp only [wholeDigits, List.cons_append] at h ⊢
  by_cases zero : c = '0'
  · rw [if_pos zero] at h ⊢
    by_cases more : (cs.head?.map isDigit).getD false = true
    · simp [more] at h
    have more' : ¬((cs ++ rest).head?.map isDigit).getD false = true := by
      cases cs with
      | nil =>
          cases rest with
          | nil => simp
          | cons d rest => simp [noDigit d rfl]
      | cons d cs => simpa using more
    rw [if_neg more] at h
    simp only [Except.ok.injEq, Prod.mk.injEq] at h
    obtain ⟨rfl, hplace⟩ := h
    obtain rfl : cs = left := congrArg Place.rest hplace
    rw [if_neg more']
    exact ⟨_, rfl⟩
  · rw [if_neg zero] at h ⊢
    by_cases digit : isDigit c
    · rw [if_pos digit] at h ⊢
      simp only [Except.ok.injEq, Prod.mk.injEq] at h
      obtain ⟨rfl, hplace⟩ := h
      have hleft : (c :: cs).dropWhile isDigit = left := by
        rw [← rest_passWhile ⟨c :: cs, o⟩, hplace]
      obtain ⟨q', hq'⟩ := exists_place (show
        (Place.passWhile ⟨c :: (cs ++ rest), o'⟩ isDigit).rest = left ++ rest by
          rw [rest_passWhile, ← hleft, ← dropWhile_append noDigit, List.cons_append])
      exact ⟨q', by rw [hq', ← List.cons_append, takeWhile_append noDigit]⟩
    · simp [digit] at h

theorem fractionDigits_append {ds : List Char} (stops : StopsNumber rest)
    (h : fractionDigits ⟨cs, o⟩ = .ok (ds, ⟨left, q⟩)) (o' : Nat) :
    ∃ q', fractionDigits ⟨cs ++ rest, o'⟩ = .ok (ds, ⟨left ++ rest, q'⟩) := by
  have noDigit : ∀ c ∈ rest.head?, isDigit c = false := fun c hc => (stops c hc).1
  have whole : ∀ {ds : List Char}, (∀ more, ds ≠ '.' :: more) → ∀ o,
      fractionDigits ⟨ds, o⟩ = .ok ([], ⟨ds, o⟩) := by
    intro ds hds o
    unfold fractionDigits
    split
    next more heq => exact absurd heq (hds more)
    next => rfl
  by_cases point : ∃ more, cs = '.' :: more
  · obtain ⟨more, rfl⟩ := point
    simp only [fractionDigits, List.cons_append] at h ⊢
    by_cases none : (more.takeWhile isDigit).isEmpty
    · simp [none] at h
    rw [if_neg none] at h
    simp only [Except.ok.injEq, Prod.mk.injEq] at h
    obtain ⟨rfl, hplace⟩ := h
    have hleft : more.dropWhile isDigit = left := by
      have := congrArg Place.rest hplace
      simpa [Place.advance] using this
    obtain ⟨q', hq'⟩ := exists_place (show
      (Place.passWhile (Place.advance ⟨'.' :: (more ++ rest), o'⟩ 1) isDigit).rest =
        left ++ rest by
        rw [rest_passWhile, ← hleft, ← dropWhile_append noDigit]
        rfl)
    rw [takeWhile_append noDigit, if_neg none]
    exact ⟨q', by rw [hq']⟩
  · have noPoint : ∀ more, cs ≠ '.' :: more := fun more heq => point ⟨more, heq⟩
    rw [whole noPoint] at h
    simp only [Except.ok.injEq, Prod.mk.injEq, Place.mk.injEq] at h
    obtain ⟨rfl, rfl, rfl⟩ := h
    refine ⟨_, whole ?_ o'⟩
    intro more heq
    obtain _ | ⟨c, cs⟩ := cs
    · exact (stops '.' (by rw [← List.nil_append rest, heq]; rfl)).2.1 rfl
    · rw [List.cons_append, List.cons.injEq] at heq
      exact noPoint cs (by rw [heq.1])

/-- The digits of an exponent, once its letter and sign have been passed. -/
def exponentFrom (negative : Bool) (p : Place) :
    Except Fault (Option (Bool × List Char) × Place) :=
  if (p.rest.takeWhile isDigit).isEmpty then
    .error (faultAt p (if p.rest.isEmpty then .endsIn .value else .badNumber))
  else .ok (some (negative, p.rest.takeWhile isDigit), p.passWhile isDigit)

theorem exponentFrom_append {e : Option (Bool × List Char)} {p p' : Place} {negative : Bool}
    (stops : StopsNumber rest) (h : exponentFrom negative p = .ok (e, ⟨left, q⟩))
    (hp : p'.rest = p.rest ++ rest) :
    ∃ q', exponentFrom negative p' = .ok (e, ⟨left ++ rest, q'⟩) := by
  have noDigit : ∀ c ∈ rest.head?, isDigit c = false := fun c hc => (stops c hc).1
  unfold exponentFrom at h ⊢
  by_cases none : (p.rest.takeWhile isDigit).isEmpty
  · simp [none] at h
  rw [if_neg none] at h
  simp only [Except.ok.injEq, Prod.mk.injEq] at h
  obtain ⟨rfl, hplace⟩ := h
  have hleft := congrArg Place.rest hplace
  rw [rest_passWhile] at hleft
  obtain ⟨q', hq'⟩ := exists_place (show (p'.passWhile isDigit).rest = left ++ rest by
    rw [rest_passWhile, hp, dropWhile_append noDigit, hleft])
  rw [hp, takeWhile_append noDigit, if_neg none]
  exact ⟨q', by rw [hq']⟩

theorem exponentDigits_append {e : Option (Bool × List Char)} (stops : StopsNumber rest)
    (h : exponentDigits ⟨cs, o⟩ = .ok (e, ⟨left, q⟩)) (o' : Nat) :
    ∃ q', exponentDigits ⟨cs ++ rest, o'⟩ = .ok (e, ⟨left ++ rest, q'⟩) := by
  obtain _ | ⟨c, cs⟩ := cs
  · simp only [exponentDigits, Except.ok.injEq, Prod.mk.injEq, Place.mk.injEq] at h
    obtain ⟨rfl, rfl, rfl⟩ := h
    refine ⟨o', ?_⟩
    cases rest with
    | nil => rfl
    | cons c rest => simp [exponentDigits, (stops c rfl).2.2.1, (stops c rfl).2.2.2]
  · by_cases letter : c = 'e' ∨ c = 'E'
    · simp only [exponentDigits, List.cons_append, if_pos letter] at h ⊢
      obtain _ | ⟨sign, cs⟩ := cs
      · simp [Place.advance] at h
      · by_cases minus : sign = '-'
        · subst minus
          exact exponentFrom_append stops h rfl
        · by_cases plus : sign = '+'
          · subst plus
            exact exponentFrom_append stops h rfl
          · split at h
            next heq => exact absurd (List.cons.inj heq).1 minus
            next heq => exact absurd (List.cons.inj heq).1 plus
            next =>
              split
              next heq => exact absurd (List.cons.inj heq).1 minus
              next heq => exact absurd (List.cons.inj heq).1 plus
              next => exact exponentFrom_append stops h rfl
    · simp only [exponentDigits, List.cons_append, if_neg letter] at h ⊢
      simp only [Except.ok.injEq, Prod.mk.injEq, Place.mk.injEq] at h
      obtain ⟨rfl, rfl, rfl⟩ := h
      exact ⟨o', rfl⟩

theorem readNumber_of_digits {negative : Bool} {whole fraction : List Char}
    {e : Option (Bool × List Char)} {p p₁ p₂ p₃ : Place}
    (hsign : decide (p.rest.head? = some '-') = negative)
    (hwhole : wholeDigits (if p.rest.head? = some '-' then p.advance 1 else p) = .ok (whole, p₁))
    (hfraction : fractionDigits p₁ = .ok (fraction, p₂))
    (hexponent : exponentDigits p₂ = .ok (e, p₃)) :
    readNumber p = match (⟨negative, whole, fraction, e⟩ : Numeral).value? with
      | some n => (.num n p₃.offset, .ok p₃)
      | none => (.bad ⟨.numberTooLarge, p₃.offset⟩ none, .ok p₃) := by
  subst hsign
  cases value : (⟨decide (p.rest.head? = some '-'), whole, fraction, e⟩ : Numeral).value? <;>
    simp only [readNumber, hwhole, hfraction, hexponent, value, bind, Except.bind, pure,
      Except.pure]

/-- What a number reads as does not depend on the text after it. -/
theorem readNumber_append {n : Number} {stop : Nat} (stops : StopsNumber rest)
    (h : readNumber ⟨cs, o⟩ = (.num n stop, .ok ⟨left, q⟩)) (o' : Nat) :
    ∃ stop' q', readNumber ⟨cs ++ rest, o'⟩ = (.num n stop', .ok ⟨left ++ rest, q'⟩) := by
  have nonempty : cs ≠ [] := by
    rintro rfl
    simp [readNumber, wholeDigits, bind, Except.bind, stopped] at h
  obtain ⟨c, cs, rfl⟩ := List.exists_cons_of_ne_nil nonempty
  -- the number after its sign
  obtain ⟨ds, o₀, o₀', hstart, hstart'⟩ : ∃ ds o₀ o₀',
      (if c = '-' then Place.advance ⟨c :: cs, o⟩ 1 else ⟨c :: cs, o⟩) = ⟨ds, o₀⟩ ∧
      (if c = '-' then Place.advance ⟨c :: (cs ++ rest), o'⟩ 1 else ⟨c :: (cs ++ rest), o'⟩) =
        ⟨ds ++ rest, o₀'⟩ := by
    by_cases minus : c = '-'
    · exact ⟨cs, _, _, if_pos minus, if_pos minus⟩
    · exact ⟨c :: cs, o, o', if_neg minus, if_neg minus⟩
  rcases hwhole : wholeDigits ⟨ds, o₀⟩ with f | ⟨whole, ⟨l₁, q₁⟩⟩
  · simp [readNumber, hstart, hwhole, bind, Except.bind, stopped] at h
  rcases hfraction : fractionDigits ⟨l₁, q₁⟩ with f | ⟨fraction, ⟨l₂, q₂⟩⟩
  · simp [readNumber, hstart, hwhole, hfraction, bind, Except.bind, stopped] at h
  rcases hexponent : exponentDigits ⟨l₂, q₂⟩ with f | ⟨e, ⟨l₃, q₃⟩⟩
  · simp [readNumber, hstart, hwhole, hfraction, hexponent, bind, Except.bind, stopped] at h
  obtain ⟨q₁', hwhole'⟩ := wholeDigits_append stops hwhole o₀'
  obtain ⟨q₂', hfraction'⟩ := fractionDigits_append stops hfraction q₁'
  obtain ⟨q₃', hexponent'⟩ := exponentDigits_append stops hexponent q₂'
  have sign : ∀ ds : List Char,
      decide ((c :: ds).head? = some '-') = decide (c = '-') := by simp
  rw [readNumber_of_digits (p := ⟨c :: cs, o⟩) (sign cs) (by simpa [hstart] using hwhole)
    hfraction hexponent] at h
  rw [List.cons_append, readNumber_of_digits (p := ⟨c :: (cs ++ rest), o'⟩) (sign (cs ++ rest))
    (by simpa [hstart'] using hwhole') hfraction' hexponent']
  cases hvalue : (⟨decide (c = '-'), whole, fraction, e⟩ : Numeral).value? with
  | none => simp [hvalue] at h
  | some n =>
      simp only [hvalue, Prod.mk.injEq, Found.num.injEq, Except.ok.injEq, Place.mk.injEq] at h ⊢
      obtain ⟨⟨rfl, -⟩, rfl, -⟩ := h
      exact ⟨_, _, ⟨rfl, rfl⟩, rfl, rfl⟩

end Locality

/-- A further digit continues a number as long as the value fits. -/
theorem continued_append {k m : Nat} {cs : List Char} {c : Char} (h : continued k cs = (m, []))
    (fits : 10 * m + (digitValue? c).getD 0 ≤ 0xFFFFFFFFFFFFFFFF) :
    continued k (cs ++ [c]) = (10 * m + (digitValue? c).getD 0, []) := by
  induction cs generalizing k with
  | nil =>
      obtain rfl : k = m := congrArg Prod.fst h
      simp only [List.nil_append, continued, if_pos fits]
  | cons d cs ih =>
      simp only [List.cons_append, continued] at h ⊢
      split at h
      next room => rw [if_pos room, ih h]
      next => simp at h

theorem continued_numeral {n : Nat} (h : n ≤ 0xFFFFFFFFFFFFFFFF) :
    continued 0 (numeral n) = (n, []) := by
  induction n using Text.numeral_induction with
  | digit n hn =>
      have small : n ≤ 0xFFFFFFFFFFFFFFFF := h
      simp [Text.numeral_of_lt hn, continued, Text.digitValue?_digitChar hn, small]
  | append n hn ih =>
      have last := Text.digitValue?_digitChar (Nat.mod_lt n (show 0 < 10 by omega))
      rw [Text.numeral_of_le hn, continued_append (ih (by omega)) (by
        rw [last, Option.getD_some]
        omega), last, Option.getD_some]
      congr 1
      omega

theorem wholeDigits_numeral (n o : Nat) :
    ∃ q, wholeDigits ⟨numeral n, o⟩ = .ok (numeral n, ⟨[], q⟩) := by
  by_cases zero : n = 0
  · subst zero
    rw [Text.numeral_of_lt (by decide)]
    exact ⟨o + 1, rfl⟩
  · obtain ⟨c, cs, hn⟩ := List.exists_cons_of_ne_nil (Text.numeral_ne_nil n)
    have digits : ∀ d ∈ c :: cs, isDigit d = true := fun d hd =>
      Text.isDigit_of_mem_numeral (hn ▸ hd)
    have nonzero : c ≠ '0' := by
      have := Text.head?_numeral zero
      simpa [hn] using this
    obtain ⟨q, hq⟩ := exists_place (show (Place.passWhile ⟨c :: cs, o⟩ isDigit).rest = [] by
      rw [rest_passWhile, List.dropWhile_eq_nil_iff]
      exact digits)
    refine ⟨q, ?_⟩
    have all : (c :: cs).takeWhile isDigit = c :: cs := List.takeWhile_eq_self_iff.2 digits
    simp only [hn, wholeDigits, if_neg nonzero, if_pos (digits c List.mem_cons_self), hq, all]

/-- A natural number reads back from its numeral. -/
theorem readNumber_numeral {n : Nat} (h : n ≤ 0xFFFFFFFFFFFFFFFF) (o : Nat) :
    ∃ stop q, readNumber ⟨numeral n, o⟩ = (.num (.natural n) stop, .ok ⟨[], q⟩) := by
  obtain ⟨q, hwhole⟩ := wholeDigits_numeral n o
  have positive : (numeral n).head? ≠ some '-' := by
    intro minus
    have := Text.isDigit_of_mem_numeral (List.mem_of_head? minus)
    revert this
    decide
  have value : (⟨false, numeral n, [], none⟩ : Numeral).value? = some (.natural n) := by
    simp [Numeral.value?, fitting, continued_numeral h, continued]
  refine ⟨q, q, ?_⟩
  have sign : decide ((numeral n).head? = some '-') = false := by simpa using positive
  have fraction : fractionDigits ⟨[], q⟩ = .ok ([], ⟨[], q⟩) := rfl
  have none_after : exponentDigits ⟨[], q⟩ = .ok (none, ⟨[], q⟩) := rfl
  rw [readNumber_of_digits sign (by rw [if_neg positive, hwhole]) fraction none_after, value]

/-! ## Written doubles -/

/-- Whether the written form of a double is read as a double, which need not be the same one. -/
def ReadsAs (x y : Binary64) : Prop := decode double (String.ofList x.dataText) = .ok y

/-- Whether the written form of a double reads back as the double. -/
def ReadsBack (x : Binary64) : Prop := ReadsAs x x

theorem mem_positional {digits fraction : List Char} {point : Int} {c : Char}
    (h : c ∈ Binary64.positional digits point fraction) :
    c ∈ digits ∨ c ∈ fraction ∨ c = '0' ∨ c = '.' := by
  simp only [Binary64.positional] at h
  split at h
  next =>
    simp only [List.mem_append, List.mem_cons, List.not_mem_nil, or_false,
      List.mem_replicate] at h
    tauto
  next =>
    split at h
    next =>
      simp only [List.mem_append, List.mem_replicate] at h
      tauto
    next =>
      simp only [List.mem_append, List.mem_cons] at h
      obtain h | h | h := h
      · exact .inl (List.mem_of_mem_take h)
      · exact .inr (.inr (.inr h))
      · exact .inl (List.mem_of_mem_drop h)

theorem isSpace_of_isDigit {c : Char} (h : isDigit c = true) : isSpace c = false := by
  cases hc : isSpace c with
  | false => rfl
  | true =>
      simp only [isSpace, Bool.or_eq_true, decide_eq_true_eq] at hc
      obtain ((rfl | rfl) | rfl) | rfl := hc <;> revert h <;> decide

/-- The characters in the written form of a double. -/
theorem mem_dataText {x : Binary64} {c : Char} (h : c ∈ x.dataText) :
    isDigit c = true ∨ c ∈ "-+.enul".toList := by
  have digits : ∀ {n : Nat}, c ∈ numeral n → isDigit c = true ∨ c ∈ "-+.enul".toList := fun h =>
    .inl (Text.isDigit_of_mem_numeral h)
  have mark : ∀ {cs : List Char},
      cs.all (fun d => isDigit d || "-+.enul".toList.contains d) = true →
        c ∈ cs → isDigit c = true ∨ c ∈ "-+.enul".toList := by
    intro cs marks hc
    simpa using List.all_eq_true.1 marks c hc
  have sign : ∀ {negative : Bool}, c ∈ (if negative then ['-'] else []) →
      isDigit c = true ∨ c ∈ "-+.enul".toList := by
    intro negative hc
    cases negative <;> exact mark (by decide) hc
  simp only [Binary64.dataText] at h
  split at h
  next => exact mark (by decide) h
  next =>
    split at h
    next =>
      obtain h | h := List.mem_append.1 h
      · exact sign h
      · exact mark (by decide) h
    next =>
      split at h
      next =>
        obtain h | h := List.mem_append.1 h
        · exact sign h
        · obtain h | h | rfl | rfl := mem_positional h
          · exact digits h
          · exact mark (by decide) h
          · decide
          · decide
      next =>
        simp only [List.mem_append] at h
        obtain ((h | h) | h) | h := h
        · exact sign h
        · split at h
          next => simp at h
          next digit heq => exact digits (heq ▸ h)
          next digit rest _ heq =>
            simp only [List.mem_cons] at h
            obtain rfl | rfl | h := h
            · exact digits (heq ▸ List.mem_cons_self)
            · decide
            · exact digits (heq ▸ List.mem_cons_of_mem digit h)
        · split at h <;> exact mark (by decide) h
        · exact digits h

/-- There are no blanks in the written form of a double. -/
theorem isSpace_of_mem_dataText {x : Binary64} {c : Char} (h : c ∈ x.dataText) :
    isSpace c = false := by
  obtain digit | mark := mem_dataText h
  · exact isSpace_of_isDigit digit
  · have marks : "-+.enul".toList.all (fun c => !isSpace c) = true := by decide
    simpa using List.all_eq_true.1 marks c mark

/-- A place whose next character is no blank is the next place. -/
theorem next_eq_self {p : Place} (h : ∀ c ∈ p.rest.head?, isSpace c = false) : next p = p := by
  obtain ⟨rest, o⟩ := p
  have none : rest.takeWhile isSpace = [] := by
    cases rest with
    | nil => rfl
    | cons c rest => simp [h c rfl]
  simp [next, Place.passWhile, none, Place.advance]

theorem double_eq_ok {v : Found} {x : Binary64} (h : double v = .ok x) :
    ∃ n stop, v = .num n stop ∧ ∀ stop, double (.num n stop) = .ok x := by
  unfold double at h
  split at h
  next n stop => exact ⟨_, stop, rfl, fun _ => h⟩
  next n stop => exact ⟨_, stop, rfl, fun _ => h⟩
  next y stop => exact ⟨_, stop, rfl, fun _ => h⟩
  next => simp at h

theorem readWord_ne_num (p : Place) (word : List Char) {value : Nat → Found}
    (hvalue : ∀ stop n stop', value stop ≠ .num n stop') (n : Number) (stop : Nat) :
    (readWord p word value).1 ≠ .num n stop := by
  simp only [readWord]
  split
  next => exact hvalue _ n stop
  next => split <;> simp [stopped]

/-- A value that is a number is read as a number. -/
theorem readNumber_of_readValue {fuel stop : Nat} {c : Char} {cs : List Char} {o : Nat} {n : Number}
    {onward : Onward} (hc : isSpace c = false)
    (h : readValue (fuel + 1) ⟨c :: cs, o⟩ = (.num n stop, onward)) :
    readNumber ⟨c :: cs, o⟩ = (.num n stop, onward) ∧ (c = '-' ∨ isDigit c = true) := by
  have hnext : next ⟨c :: cs, o⟩ = ⟨c :: cs, o⟩ := next_eq_self (by simpa using hc)
  simp only [readValue, hnext] at h
  split at h
  next => exact absurd (congrArg Prod.fst h) (readWord_ne_num _ _ (by simp) n stop)
  next =>
  split at h
  next => exact absurd (congrArg Prod.fst h) (readWord_ne_num _ _ (by simp) n stop)
  next =>
  split at h
  next => exact absurd (congrArg Prod.fst h) (readWord_ne_num _ _ (by simp) n stop)
  next =>
  split at h
  next number => exact ⟨h, by simpa using number⟩
  next =>
  split at h
  next => split at h <;> simp [stopped] at h
  next =>
  split at h
  next => simp at h
  next =>
  split at h
  next => simp at h
  next => simp [stopped] at h

theorem suffix_advance (p : Place) (n : Nat) : (p.advance n).rest <:+ p.rest :=
  List.drop_suffix n p.rest

theorem suffix_passWhile (p : Place) (q : Char → Bool) : (p.passWhile q).rest <:+ p.rest :=
  suffix_advance p _

theorem suffix_of_wholeDigits {p q : Place} {ds : List Char} (h : wholeDigits p = .ok (ds, q)) :
    q.rest <:+ p.rest := by
  unfold wholeDigits at h
  split at h
  next => simp at h
  next =>
    split at h
    next =>
      split at h
      next => simp at h
      next =>
        obtain ⟨-, rfl⟩ := Prod.mk.inj (Except.ok.inj h)
        exact suffix_advance p 1
    next =>
      split at h
      next =>
        obtain ⟨-, rfl⟩ := Prod.mk.inj (Except.ok.inj h)
        exact suffix_passWhile p isDigit
      next => simp at h

theorem suffix_of_fractionDigits {p q : Place} {ds : List Char}
    (h : fractionDigits p = .ok (ds, q)) : q.rest <:+ p.rest := by
  simp only [fractionDigits] at h
  split at h
  next =>
    split at h
    next => simp at h
    next =>
      obtain ⟨-, rfl⟩ := Prod.mk.inj (Except.ok.inj h)
      exact (suffix_passWhile _ isDigit).trans (suffix_advance p 1)
  next =>
    obtain ⟨-, rfl⟩ := Prod.mk.inj (Except.ok.inj h)
    exact List.suffix_rfl

theorem suffix_of_exponentDigits {p q : Place} {e : Option (Bool × List Char)}
    (h : exponentDigits p = .ok (e, q)) : q.rest <:+ p.rest := by
  simp only [exponentDigits] at h
  split at h
  next =>
    split at h
    next =>
      split at h
      all_goals
        split at h
        next => simp at h
        next =>
          obtain ⟨-, rfl⟩ := Prod.mk.inj (Except.ok.inj h)
          exact (suffix_passWhile _ isDigit).trans (suffix_advance p _)
    next =>
      obtain ⟨-, rfl⟩ := Prod.mk.inj (Except.ok.inj h)
      exact List.suffix_rfl
  next =>
    obtain ⟨-, rfl⟩ := Prod.mk.inj (Except.ok.inj h)
    exact List.suffix_rfl

/-- A number is read from the head of the text. -/
theorem suffix_of_readNumber {p q : Place} {v : Found} (h : readNumber p = (v, .ok q)) :
    q.rest <:+ p.rest := by
  rcases hwhole : wholeDigits (if p.rest.head? = some '-' then p.advance 1 else p) with
    f | ⟨whole, p₁⟩
  · simp [readNumber, hwhole, bind, Except.bind, stopped] at h
  rcases hfraction : fractionDigits p₁ with f | ⟨fraction, p₂⟩
  · simp [readNumber, hwhole, hfraction, bind, Except.bind, stopped] at h
  rcases hexponent : exponentDigits p₂ with f | ⟨e, p₃⟩
  · simp [readNumber, hwhole, hfraction, hexponent, bind, Except.bind, stopped] at h
  have rest : p₃.rest <:+ p.rest := by
    refine (suffix_of_exponentDigits hexponent).trans ((suffix_of_fractionDigits hfraction).trans
      ((suffix_of_wholeDigits hwhole).trans ?_))
    split
    next => exact suffix_advance p 1
    next => exact List.suffix_rfl
  rw [readNumber_of_digits rfl hwhole hfraction hexponent] at h
  split at h
  all_goals
    obtain rfl : p₃ = q := Except.ok.inj (Prod.mk.inj h).2
    exact rest

/-- A double whose written form the reader accepts is read from it as a number. -/
theorem readNumber_dataText {x y : Binary64} (h : ReadsAs x y) :
    ∃ n stop q, readNumber ⟨x.dataText, 0⟩ = (.num n stop, .ok ⟨[], q⟩) ∧
      (∀ stop, double (.num n stop) = .ok y) ∧
      ∃ c cs, x.dataText = c :: cs ∧ (c = '-' ∨ isDigit c = true) := by
  have blanks : ∀ c ∈ x.dataText, isSpace c = false := fun c hc => isSpace_of_mem_dataText hc
  rcases read : Found.read x.dataText with ⟨found, onward⟩
  simp only [ReadsAs, decode, String.toList_ofList, read, bind, Except.bind] at h
  rcases found_eq : double found with f | z
  · simp [found_eq] at h
  obtain ⟨n, stop, rfl, value⟩ := double_eq_ok found_eq
  rcases onward with f | last
  · simp [found_eq] at h
  simp only [found_eq] at h
  split at h
  next ended =>
    obtain rfl : z = y := Except.ok.inj h
    rcases htext : x.dataText with _ | ⟨c, cs⟩
    · simp [htext, Found.read, readValue, next, Place.head, Place.passWhile, Place.advance,
        stopped] at read
    · rw [htext] at read blanks
      obtain ⟨number, first⟩ := readNumber_of_readValue (blanks c List.mem_cons_self) read
      have left : last.rest = [] := by
        have visible : ∀ d ∈ last.rest.head?, isSpace d = false := fun d hd =>
          blanks d ((suffix_of_readNumber number).subset (List.mem_of_head? hd))
        rw [next_eq_self visible] at ended
        exact List.isEmpty_iff.1 ended
      obtain ⟨q, rfl⟩ := exists_place left
      exact ⟨n, stop, q, number, value, c, cs, rfl, first⟩
  next => simp at h

end Mutagenesis.Json
