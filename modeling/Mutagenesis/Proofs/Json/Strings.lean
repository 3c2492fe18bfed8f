import Mutagenesis.Json.Basic
import Mutagenesis.Json.Found
import Mutagenesis.Proofs.Numeral

/-!
# Reading strings

A string may be written in many ways, for each of its characters may stand as it is or be escaped.
`Spells` relates the characters of a string to what may stand for them between its quotes, and
reading undoes it. What the program writes for a character is one of these ways. The units of
UTF-16 in a string need not make characters; such a string is still read through to its closing
quote, and does no harm where it is passed over.
-/
namespace Mutagenesis.Json

open Text (Place)

variable {body cs : List Char}

/-! ## Steps -/

/-- An escape of one letter reads as the character that it stands for. -/
theorem stringFrom_letter (n : Nat) (d : StringDraft) {e v : Char} (h : escapeValue? e = some v)
    (more : List Char) (o : Nat) :
    ∃ o', stringFrom (n + 1) d ⟨'\\' :: e :: more, o⟩ = stringFrom n (d.push v) ⟨more, o'⟩ := by
  have notUnit : e ≠ 'u' := by
    rintro rfl
    have unknown : escapeValue? 'u' = none := by decide
    simp [unknown] at h
  refine ⟨(Place.advance ⟨'\\' :: e :: more, o⟩ 2).offset, ?_⟩
  rw [stringFrom]
  simp only [h]
  rfl

/-- A character that is not escaped reads as itself. -/
theorem stringFrom_plain (n : Nat) (d : StringDraft) {c : Char} (hquote : c ≠ '\x22')
    (hslash : c ≠ '\\') (hcontrol : ¬c.toNat < 0x20) (more : List Char) (o : Nat) :
    ∃ o', stringFrom (n + 1) d ⟨c :: more, o⟩ = stringFrom n (d.push c) ⟨more, o'⟩ := by
  refine ⟨o + c.utf8Size, ?_⟩
  rw [stringFrom]
  split
  next heq => simp at heq
  next heq => exact absurd (List.cons.inj heq).1 hquote
  next heq => exact absurd (List.cons.inj heq).1 hslash
  next heq => exact absurd (List.cons.inj heq).1 hslash
  next heq => exact absurd (List.cons.inj heq).1 hslash
  next heq =>
    obtain ⟨rfl, -⟩ := List.cons.inj heq
    rw [if_neg hcontrol]
    rfl

/-- The value of the four digits that are written for a control character. -/
theorem hex4?_escaped {k : Nat} (h : k < 256) :
    hex4? ['0', '0', Text.digitChar (k / 16), Text.digitChar (k % 16)] = some k := by
  have high := Text.hexValue?_digitChar (d := k / 16) (by omega)
  have low := Text.hexValue?_digitChar (d := k % 16) (by omega)
  have zero : Text.hexValue? '0' = some 0 := by decide
  simp only [hex4?, high, low, zero, Option.bind_eq_bind, Option.bind_some, Option.pure_def]
  congr 1
  omega

theorem exists_of_hex4? {ds : List Char} {n : Nat} (h : hex4? ds = some n) :
    ∃ a b c d, ds = [a, b, c, d] := by
  unfold hex4? at h
  split at h
  next a b c d => exact ⟨a, b, c, d, rfl⟩
  next => simp at h

/-- The escape of a unit is read, and then what follows it. -/
theorem stringFrom_unit (n : Nat) (d : StringDraft) {ds : List Char} {unit : Nat}
    (value : hex4? ds = some unit) (more : List Char) (o : Nat) :
    ∃ o', stringFrom (n + 1) d ⟨'\\' :: 'u' :: (ds ++ more), o⟩ =
      stringFrom.afterUnit n d ⟨more, o'⟩ unit := by
  obtain ⟨x, y, z, t, rfl⟩ := exists_of_hex4? value
  have long : ¬Text.byteSize ([x, y, z, t] ++ more) < 4 := by
    have := x.utf8Size_pos
    have := y.utf8Size_pos
    have := z.utf8Size_pos
    have := t.utf8Size_pos
    simp only [List.cons_append, List.nil_append, Text.byteSize_cons]
    omega
  refine ⟨(Place.advance ⟨'\\' :: 'u' :: ([x, y, z, t] ++ more), o⟩ 6).offset, ?_⟩
  have first : ([x, y, z, t] ++ more).take 4 = [x, y, z, t] := by simp
  rw [stringFrom]
  simp only [if_neg long, first, value]
  rfl

/-- The closing quote ends a string. -/
theorem stringFrom_quote (n : Nat) (d : StringDraft) (rest : List Char) (o : Nat) :
    ∃ o', stringFrom (n + 1) d ⟨'\x22' :: rest, o⟩ = (d, .ok ⟨rest, o'⟩) :=
  ⟨(Place.advance ⟨'\x22' :: rest, o⟩ 1).offset, by simp [stringFrom, Place.advance]⟩

/-- Two units that make a character are read together. -/
theorem afterUnit_pair (n : Nat) (d : StringDraft) {ds : List Char} {high low : Nat}
    (isHigh : 0xD800 ≤ high ∧ high ≤ 0xDBFF) (second : hex4? ds = some low)
    (isLow : 0xDC00 ≤ low ∧ low ≤ 0xDFFF) (more : List Char) (o : Nat) :
    ∃ o', stringFrom.afterUnit n d ⟨'\\' :: 'u' :: (ds ++ more), o⟩ high =
      stringFrom n (d.push (Char.ofNat (0x10000 + (high - 0xD800) * 0x400 + (low - 0xDC00))))
        ⟨more, o'⟩ := by
  obtain ⟨x, y, z, t, rfl⟩ := exists_of_hex4? second
  have notLow : ¬(0xDC00 ≤ high ∧ high ≤ 0xDFFF) := by omega
  have surrogate : ¬(high < 0xD800 ∨ 0xDBFF < high) := by omega
  have digits : ([x, y, z, t] ++ more).take 4 = [x, y, z, t] := by simp
  refine ⟨(Place.advance ⟨'\\' :: 'u' :: ([x, y, z, t] ++ more), o⟩ 6).offset, ?_⟩
  rw [stringFrom.afterUnit, if_neg notLow, if_neg surrogate]
  simp only [digits, second, if_pos isLow]
  rfl

/-! ## What may stand between the quotes -/

/-- Whether a character may stand in a string as it is. -/
structure IsPlain (c : Char) : Prop where
  noQuote : c ≠ '\x22'
  noSlash : c ≠ '\\'
  noControl : ¬c.toNat < 0x20

/-- Four hexadecimal digits. -/
structure IsHex (ds : List Char) : Prop where
  length : ds.length = 4
  each : ∀ d ∈ ds, d ∈ "0123456789abcdefABCDEF".toList

/-- What may stand between the quotes of a string. The units of UTF-16 among it need not make
characters. -/
inductive IsStringBody : List Char → Prop
  | nil : IsStringBody []
  | plain {c more} (isPlain : IsPlain c) (others : IsStringBody more) : IsStringBody (c :: more)
  | letter {e more} (known : e ∈ ['\x22', '\\', '/', 'b', 'f', 'n', 'r', 't'])
      (others : IsStringBody more) : IsStringBody ('\\' :: e :: more)
  | unit {ds more} (isHex : IsHex ds) (others : IsStringBody more) :
      IsStringBody ('\\' :: 'u' :: (ds ++ more))

/-- What may stand between the quotes of a string for the given characters. -/
inductive Spells : List Char → List Char → Prop
  | nil : Spells [] []
  | plain {c body cs} (isPlain : IsPlain c) (others : Spells body cs) :
      Spells (c :: body) (c :: cs)
  | letter {e c body cs} (known : escapeValue? e = some c) (others : Spells body cs) :
      Spells ('\\' :: e :: body) (c :: cs)
  | unit {ds n body cs} (value : hex4? ds = some n) (whole : n < 0xD800 ∨ 0xDFFF < n)
      (others : Spells body cs) : Spells ('\\' :: 'u' :: (ds ++ body)) (Char.ofNat n :: cs)
  | pair {ds ds' high low body cs} (first : hex4? ds = some high)
      (isHigh : 0xD800 ≤ high ∧ high ≤ 0xDBFF) (second : hex4? ds' = some low)
      (isLow : 0xDC00 ≤ low ∧ low ≤ 0xDFFF) (others : Spells body cs) :
      Spells ('\\' :: 'u' :: (ds ++ '\\' :: 'u' :: (ds' ++ body)))
        (Char.ofNat (0x10000 + (high - 0xD800) * 0x400 + (low - 0xDC00)) :: cs)

theorem IsHex.exists_hex4? {ds : List Char} (h : IsHex ds) : ∃ n, hex4? ds = some n := by
  obtain ⟨length, each⟩ := h
  match ds, length with
  | [a, b, c, d], _ =>
      have digit : ∀ x ∈ "0123456789abcdefABCDEF".toList, ∃ n, Text.hexValue? x = some n := by
        have digits : "0123456789abcdefABCDEF".toList.all (fun x => (Text.hexValue? x).isSome) =
            true := by decide
        exact fun x hx => Option.isSome_iff_exists.1 (List.all_eq_true.1 digits x hx)
      obtain ⟨a', ha⟩ := digit a (each a (by simp))
      obtain ⟨b', hb⟩ := digit b (each b (by simp))
      obtain ⟨c', hc⟩ := digit c (each c (by simp))
      obtain ⟨d', hd⟩ := digit d (each d (by simp))
      refine ⟨((a' * 16 + b') * 16 + c') * 16 + d', ?_⟩
      simp only [hex4?, ha, hb, hc, hd, Option.bind_eq_bind, Option.bind_some, Option.pure_def]

/-- After the escape of a unit, reading goes on with what follows it or, where that makes a
character with the unit, after one more. -/
theorem afterUnit_cases (n : Nat) (d : StringDraft) (unit : Nat) (h : IsStringBody body)
    (rest : List Char) (o : Nat) :
    ∃ d' more o', IsStringBody more ∧ more.length ≤ body.length ∧
      stringFrom.afterUnit n d ⟨body ++ '\x22' :: rest, o⟩ unit =
        stringFrom n d' ⟨more ++ '\x22' :: rest, o'⟩ := by
  have same (d' : StringDraft) : ∃ d'' more o', IsStringBody more ∧ more.length ≤ body.length ∧
      stringFrom n d' ⟨body ++ '\x22' :: rest, o⟩ = stringFrom n d'' ⟨more ++ '\x22' :: rest, o'⟩ :=
    ⟨d', body, o, h, Nat.le_refl _, rfl⟩
  unfold stringFrom.afterUnit
  split
  next => exact same _
  next =>
    split
    next => exact same _
    next =>
      split
      next digits follows =>
        split
        next => exact same _
        next =>
          split
          next =>
            -- a second unit follows, for no other escape begins with this letter
            cases h with
            | nil => simp at follows
            | plain isPlain => exact absurd (List.cons.inj follows).1 isPlain.noSlash
            | letter known =>
                obtain ⟨rfl, -⟩ := List.cons.inj (List.cons.inj follows).2
                exact absurd known (by decide)
            | @unit ds more isHex others =>
                obtain ⟨value, hvalue⟩ := isHex.exists_hex4?
                obtain ⟨x, y, z, t, rfl⟩ := exists_of_hex4? hvalue
                refine ⟨_, more, _, others, ?_, rfl⟩
                simp only [List.length_cons, List.length_append]
                omega
          next => exact same _
      next => exact same _
      next => exact same _
      next => exact same _
      next => exact same _

/-- A string is read through to its closing quote. -/
theorem IsStringBody.stringFrom (h : IsStringBody body) {n : Nat} (long : body.length < n)
    (d : StringDraft) (rest : List Char) (o : Nat) :
    ∃ d' o', stringFrom n d ⟨body ++ '\x22' :: rest, o⟩ = (d', .ok ⟨rest, o'⟩) := by
  induction n generalizing body d o with
  | zero => omega
  | succ n ih =>
      cases h with
      | nil =>
          obtain ⟨o', quote⟩ := stringFrom_quote n d rest o
          exact ⟨d, o', quote⟩
      | @plain c more isPlain others =>
          obtain ⟨o', first⟩ := stringFrom_plain n d isPlain.noQuote isPlain.noSlash
            isPlain.noControl (more ++ '\x22' :: rest) o
          rw [List.cons_append, first]
          exact ih others (by simpa using long) _ _
      | @letter e more known others =>
          have letters : ['\x22', '\\', '/', 'b', 'f', 'n', 'r', 't'].all
              (fun e => (escapeValue? e).isSome) = true := by decide
          obtain ⟨c, hc⟩ := Option.isSome_iff_exists.1 (List.all_eq_true.1 letters e known)
          obtain ⟨o', first⟩ := stringFrom_letter n d hc (more ++ '\x22' :: rest) o
          rw [List.cons_append, List.cons_append, first]
          exact ih others (by simp at long; omega) _ _
      | @unit ds more isHex others =>
          obtain ⟨unit, value⟩ := isHex.exists_hex4?
          obtain ⟨o', first⟩ := stringFrom_unit n d value (more ++ '\x22' :: rest) o
          obtain ⟨d', left, o'', others', shorter, after⟩ := afterUnit_cases n d unit others rest o'
          rw [List.cons_append, List.cons_append, List.append_assoc, first, after]
          exact ih others' (by simp at long; omega) _ _

/-- What spells characters is read as these. -/
theorem Spells.stringFrom (h : Spells body cs) {n : Nat} (long : body.length < n)
    (d : StringDraft) (rest : List Char) (o : Nat) :
    ∃ o', stringFrom n d ⟨body ++ '\x22' :: rest, o⟩ =
      ({ d with reversed := cs.reverse ++ d.reversed }, .ok ⟨rest, o'⟩) := by
  induction h generalizing n d o with
  | nil =>
      obtain ⟨n, rfl⟩ := Nat.exists_eq_add_of_lt long
      exact stringFrom_quote _ d rest o
  | @plain c body cs isPlain others ih =>
      obtain ⟨n, rfl⟩ : ∃ k, n = k + 1 := ⟨n - 1, by omega⟩
      obtain ⟨o₁, first⟩ := stringFrom_plain n d isPlain.noQuote isPlain.noSlash
        isPlain.noControl (body ++ '\x22' :: rest) o
      obtain ⟨o₂, more⟩ := ih (by simpa using long) (d.push c) o₁
      exact ⟨o₂, by rw [List.cons_append, first, more]; simp [StringDraft.push]⟩
  | @letter e c body cs known others ih =>
      obtain ⟨n, rfl⟩ : ∃ k, n = k + 1 := ⟨n - 1, by omega⟩
      obtain ⟨o₁, first⟩ := stringFrom_letter n d known (body ++ '\x22' :: rest) o
      obtain ⟨o₂, more⟩ := ih (n := n) (by simp at long; omega) (d.push c) o₁
      exact ⟨o₂, by rw [List.cons_append, List.cons_append, first, more]; simp [StringDraft.push]⟩
  | @unit ds k body cs value whole others ih =>
      obtain ⟨n, rfl⟩ : ∃ k, n = k + 1 := ⟨n - 1, by omega⟩
      obtain ⟨o₁, first⟩ := stringFrom_unit n d value (body ++ '\x22' :: rest) o
      obtain ⟨o₂, more⟩ := ih (n := n) (by simp at long; omega) (d.push (Char.ofNat k)) o₁
      have notLow : ¬(0xDC00 ≤ k ∧ k ≤ 0xDFFF) := by omega
      refine ⟨o₂, ?_⟩
      rw [List.cons_append, List.cons_append, List.append_assoc, first, stringFrom.afterUnit,
        if_neg notLow, if_pos (by omega), more]
      simp [StringDraft.push]
  | @pair ds ds' high low body cs first isHigh second isLow others ih =>
      obtain ⟨n, rfl⟩ : ∃ k, n = k + 1 := ⟨n - 1, by omega⟩
      let c := Char.ofNat (0x10000 + (high - 0xD800) * 0x400 + (low - 0xDC00))
      obtain ⟨o₁, one⟩ := stringFrom_unit n d first
        ('\\' :: 'u' :: (ds' ++ (body ++ '\x22' :: rest))) o
      obtain ⟨o₂, both⟩ := afterUnit_pair n d isHigh second isLow (body ++ '\x22' :: rest) o₁
      obtain ⟨o₃, more⟩ := ih (n := n) (by simp at long; omega) (d.push c) o₂
      refine ⟨o₃, ?_⟩
      have text : '\\' :: 'u' :: (ds ++ '\\' :: 'u' :: (ds' ++ body)) ++ '\x22' :: rest =
          '\\' :: 'u' :: (ds ++ '\\' :: 'u' :: (ds' ++ (body ++ '\x22' :: rest))) := by simp
      rw [text, one, both, more]
      simp [StringDraft.push, c]

/-- What the program writes for a character spells it. -/
theorem Spells.escaped (c : Char) (others : Spells body cs) :
    Spells (Json.escaped c ++ body) (c :: cs) := by
  unfold Json.escaped
  split
  next h => exact .letter (by rw [h]; decide) others
  next noQuote =>
  split
  next h => exact .letter (by rw [h]; decide) others
  next noSlash =>
  split
  next h => exact .letter (by rw [h]; decide) others
  next =>
  split
  next h => exact .letter (by rw [h]; decide) others
  next =>
  split
  next h => exact .letter (by rw [h]; decide) others
  next =>
  split
  next h => exact .letter (by rw [h]; decide) others
  next =>
  split
  next h => exact .letter (by rw [h]; decide) others
  next =>
  split
  next control =>
    have spelled := Spells.unit (hex4?_escaped (k := c.toNat) (by omega)) (.inl (by omega)) others
    rwa [Char.ofNat_toNat] at spelled
  next noControl => exact .plain ⟨noQuote, noSlash, noControl⟩ others

theorem spells_flatMap_escaped (cs : List Char) : Spells (cs.flatMap escaped) cs := by
  induction cs with
  | nil => exact .nil
  | cons c cs ih => exact ih.escaped c

/-! ## Reading a string and a key -/

/-- The key that a string makes which ends at an offset. -/
def keyOf (text : Except (Fault × Option Fault) String) (stop : Nat) : Key :=
  match text with
  | .ok s => .name s stop
  | .error (used, passed) => .bad used passed

/-- Whether a key does no harm where its member is passed over. -/
def Key.IsPassable (key : Key) : Prop := ∀ used fault, key ≠ .bad used (some fault)

/-- Whether the text between the quotes of a key is read through as a key of which something
holds. -/
def ReadsKey (body : List Char) (K : Key → Prop) : Prop :=
  ∀ rest o, ∃ text q, readString ⟨'\x22' :: (body ++ '\x22' :: rest), o⟩ = (text, .ok ⟨rest, q⟩) ∧
    K (keyOf text q)

/-- A string is read as what its draft has come to at the closing quote. -/
theorem exists_readString (body rest : List Char) (o : Nat) :
    ∃ n o', body.length < n ∧ ∀ {d : StringDraft} {q : Nat},
      stringFrom n ⟨[], none⟩ ⟨body ++ '\x22' :: rest, o'⟩ = (d, .ok ⟨rest, q⟩) →
        readString ⟨'\x22' :: (body ++ '\x22' :: rest), o⟩ =
          (match d.fault with
            | none => .ok (String.ofList d.reversed.reverse)
            | some used => .error (used, none), .ok ⟨rest, q⟩) := by
  let p : Place := ⟨'\x22' :: (body ++ '\x22' :: rest), o⟩
  refine ⟨p.rest.length + 1, (p.advance 1).offset, by simp [p]; omega, ?_⟩
  intro d q read
  have start : p.advance 1 = ⟨body ++ '\x22' :: rest, (p.advance 1).offset⟩ := rfl
  rw [readString, start, read]
  cases fault : d.fault <;> simp [fault]

theorem IsStringBody.readsKey (h : IsStringBody body) : ReadsKey body Key.IsPassable := by
  intro rest o
  obtain ⟨n, o', long, read⟩ := exists_readString body rest o
  obtain ⟨d, q, through⟩ := h.stringFrom long ⟨[], none⟩ rest o'
  refine ⟨_, q, read through, fun used fault => ?_⟩
  cases d.fault <;> simp [keyOf]

theorem Spells.readString {s : String} (h : Spells body s.toList) (rest : List Char) (o : Nat) :
    ∃ q, readString ⟨'\x22' :: (body ++ '\x22' :: rest), o⟩ = (.ok s, .ok ⟨rest, q⟩) := by
  obtain ⟨n, o', long, read⟩ := exists_readString body rest o
  obtain ⟨q, through⟩ := h.stringFrom long ⟨[], none⟩ rest o'
  exact ⟨q, by simpa using read through⟩

/-- A written string reads back, whatever follows it. -/
theorem readString_stringText (s : String) (more : List Char) (o : Nat) :
    ∃ o', readString ⟨stringText s ++ more, o⟩ = (.ok s, .ok ⟨more, o'⟩) := by
  have text : stringText s ++ more = '\x22' :: (s.toList.flatMap escaped ++ '\x22' :: more) := by
    simp [stringText]
  rw [text]
  exact (spells_flatMap_escaped s.toList).readString more o

theorem Spells.readsKey {name : String} (h : Spells body name.toList) :
    ReadsKey body fun key => ∃ stop, key = .name name stop := by
  intro rest o
  obtain ⟨q, read⟩ := h.readString rest o
  exact ⟨_, q, read, q, rfl⟩

end Mutagenesis.Json
