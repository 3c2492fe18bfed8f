import Mutagenesis.Json.Fault
import Mutagenesis.Number.Reading

/-!
# What a JSON text holds

Reading a text in two steps: `Found.read` finds what the text holds, up to the first fault that
stops it, and the decoders of `Json.Decode` make a value of a type from it. The faults stay in
what was found, for the one that counts is the first that a decoder meets, and some count only where
the value is used: in a member that is passed over, a lone surrogate or a number beyond the
range of doubles does no harm.
-/
namespace Mutagenesis.Json

open Text (Place isDigit digitValue? hexValue?)

/-- A number as a text holds it: a natural number or a negative integer of at most sixty-four
bits, else a double. -/
inductive Number where
  | natural (n : Nat)
  | negative (n : Nat)
  | float (x : Binary64)
  deriving DecidableEq, Repr

/-- The key of a member, or the faults of one that is no string: the one that counts where the
key is used, and the one that counts where the member is passed over. -/
inductive Key where
  | name (text : String) (stop : Nat)
  | bad (used : Fault) (passed : Option Fault)
  deriving Repr

/-- What a text holds. Offsets say where a value ends, and where a list or an object begins. -/
inductive Found where
  | null (stop : Nat)
  | bool (b : Bool) (stop : Nat)
  | num (n : Number) (stop : Nat)
  | str (s : String) (stop : Nat)
  /-- No value: the fault where it is used, and the fault, if any, where it is passed over. -/
  | bad (used : Fault) (passed : Option Fault)
  /-- A list and how it ends. One that is held back is decoded after all of it has been read. -/
  | arr (start : Nat) (held : Bool) (items : List Found) (close : Except Fault Nat)
  /-- An object and how it ends. -/
  | obj (start : Nat) (members : List (Key × Found)) (close : Except Fault Nat)

/-- Where reading goes on after a value, or the fault that stopped it. -/
abbrev Onward := Except Fault Place

/-- The four characters that JSON counts as blank. -/
def isSpace (c : Char) : Bool := c = ' ' || c = '\n' || c = '\t' || c = '\r'

/-- The place of the next character that is not blank. -/
def next (p : Place) : Place := p.passWhile isSpace

/-- A fault noticed at the character that stands at the place, or at the end of the text. -/
def faultAt (p : Place) (cause : Cause) : Fault :=
  ⟨cause, match p.rest with
    | [] => p.offset
    | c :: _ => p.offset + min c.utf8Size 1⟩

/-- A fault that stops reading, as a value and as the way on. -/
def stopped (f : Fault) : Found × Onward := (.bad f (some f), .error f)

/-- What reading a string has come to: its characters in reverse, and the fault that makes it
unusable. -/
structure StringDraft where
  reversed : List Char
  fault : Option Fault

namespace StringDraft

def push (d : StringDraft) (c : Char) : StringDraft := { d with reversed := c :: d.reversed }

/-- Notes a fault; the first one counts. -/
def spoil (d : StringDraft) (f : Fault) : StringDraft := { d with fault := d.fault <|> some f }

end StringDraft

/-- The value of four hexadecimal digits. -/
def hex4? : List Char → Option Nat
  | [a, b, c, d] => do
      let a ← hexValue? a
      let b ← hexValue? b
      let c ← hexValue? c
      let d ← hexValue? d
      return ((a * 16 + b) * 16 + c) * 16 + d
  | _ => none

/-- The characters that an escape of one letter stands for. -/
def escapeValue? (c : Char) : Option Char :=
  [('\x22', '\x22'), ('\\', '\\'), ('/', '/'), ('b', '\x08'), ('f', '\x0c'), ('n', '\n'),
    ('r', '\r'), ('t', '\t')].lookup c

/-- A string after its opening quote. The outcome is the draft, the fault that stopped reading if
one did, and the place after the string. The number bounds the characters and escapes read. -/
def stringFrom : Nat → StringDraft → Place → StringDraft × Onward
  | 0, d, p => (d, .error ⟨.endsIn .string, p.offset⟩)
  | n + 1, d, p =>
      match p.rest with
      | [] => (d, .error ⟨.endsIn .string, p.offset⟩)
      | '\x22' :: _ => (d, .ok (p.advance 1))
      | '\\' :: 'u' :: digits =>
          if Text.byteSize digits < 4 then
            (d, .error ⟨.endsIn .string, p.offset + 2 + Text.byteSize digits⟩)
          else
            match hex4? (digits.take 4) with
            | none => (d, .error ⟨.badEscape, p.offset + 6⟩)
            | some unit => afterUnit n d (p.advance 6) unit
      | ['\\'] => (d, .error ⟨.endsIn .string, p.offset + 1⟩)
      | '\\' :: c :: _ =>
          match escapeValue? c with
          | some v => stringFrom n (d.push v) (p.advance 2)
          | none => (d, .error ⟨.badEscape, p.offset + 2⟩)
      | c :: _ =>
          if c.toNat < 0x20 then (d, .error ⟨.controlCharacter, p.offset + 1⟩)
          else stringFrom n (d.push c) (p.advance 1)
where
  /-- Goes on after the escape of a unit of UTF-16: two of them may make one character. -/
  afterUnit (n : Nat) (d : StringDraft) (p : Place) (unit : Nat) : StringDraft × Onward :=
    if 0xDC00 ≤ unit ∧ unit ≤ 0xDFFF then stringFrom n (d.spoil ⟨.loneSurrogate, p.offset⟩) p
    else if unit < 0xD800 ∨ 0xDBFF < unit then stringFrom n (d.push (Char.ofNat unit)) p
    else
      match p.rest with
      | '\\' :: 'u' :: digits =>
          match hex4? (digits.take 4) with
          | none => stringFrom n d p
          | some low =>
              if 0xDC00 ≤ low ∧ low ≤ 0xDFFF then
                let code := 0x10000 + (unit - 0xD800) * 0x400 + (low - 0xDC00)
                stringFrom n (d.push (Char.ofNat code)) (p.advance 6)
              else stringFrom n (d.spoil ⟨.loneSurrogate, p.offset + 6⟩) p
      | [] | ['\\'] => stringFrom n d p
      | '\\' :: _ => stringFrom n (d.spoil ⟨.cutSurrogate, p.offset + 2⟩) p
      | _ => stringFrom n (d.spoil ⟨.cutSurrogate, p.offset + 1⟩) p

/-- A string whose opening quote stands at the place: its text, or the fault where it is used and
the one where it is passed over. -/
def readString (p : Place) : (Except (Fault × Option Fault) String) × Onward :=
  let (draft, onward) := stringFrom (p.rest.length + 1) ⟨[], none⟩ (p.advance 1)
  match draft.fault, onward with
  | none, .ok _ => (.ok (String.ofList draft.reversed.reverse), onward)
  | none, .error f => (.error (f, some f), onward)
  | some used, .ok _ => (.error (used, none), onward)
  | some used, .error f => (.error (used, some f), onward)

/-- The digits of a number, in parts. -/
structure Numeral where
  negative : Bool
  whole : List Char
  fraction : List Char
  /-- The sign of the exponent and its digits. -/
  exponent : Option (Bool × List Char)

/-- A whole number of digits after the sign: a zero alone, or digits that begin with another. -/
def wholeDigits (p : Place) : Except Fault (List Char × Place) :=
  match p.rest with
  | [] => .error ⟨.endsIn .value, p.offset⟩
  | c :: rest =>
      if c = '0' then
        if (rest.head?.map isDigit).getD false then .error ⟨.badNumber, p.offset + 2⟩
        else .ok (['0'], p.advance 1)
      else if isDigit c then .ok (p.rest.takeWhile isDigit, p.passWhile isDigit)
      else .error ⟨.badNumber, p.offset + 1⟩

/-- The digits after a point. -/
def fractionDigits (p : Place) : Except Fault (List Char × Place) :=
  match p.rest with
  | '.' :: rest =>
      let digits := rest.takeWhile isDigit
      let q := p.advance 1
      if digits.isEmpty then
        .error (faultAt q (if rest.isEmpty then .endsIn .value else .badNumber))
      else .ok (digits, q.passWhile isDigit)
  | _ => .ok ([], p)

/-- The sign and digits after the letter of an exponent. -/
def exponentDigits (p : Place) : Except Fault (Option (Bool × List Char) × Place) :=
  match p.rest with
  | e :: rest =>
      if e = 'e' ∨ e = 'E' then
        let (negative, q) := match rest with
          | '-' :: _ => (true, p.advance 2)
          | '+' :: _ => (false, p.advance 2)
          | _ => (false, p.advance 1)
        let digits := q.rest.takeWhile isDigit
        if digits.isEmpty then
          .error (faultAt q (if q.rest.isEmpty then .endsIn .value else .badNumber))
        else .ok (some (negative, digits), q.passWhile isDigit)
      else .ok (none, p)
  | [] => .ok (none, p)

/-- The value of the digits continued as long as it fits in sixty-four bits, and the digits that
are left. -/
def continued (n : Nat) : List Char → Nat × List Char
  | [] => (n, [])
  | c :: cs =>
      let m := 10 * n + (digitValue? c).getD 0
      if m ≤ 0xFFFFFFFFFFFFFFFF then continued m cs else (n, c :: cs)

/-- The digits that fit in sixty-four bits: their value, how many whole digits are left out and
how many digits of the fraction are among them. -/
def fitting (whole fraction : List Char) : Nat × Nat × Nat :=
  let (n, left) := continued 0 whole
  let (m, rest) := continued n fraction
  (m, left.length, fraction.length - rest.length)

/-- The exponent that the text writes; digits beyond thirty-one bits make it too large to
matter. -/
def Numeral.exponent? (n : Numeral) : Option Int :=
  match n.exponent with
  | none => some 0
  | some (negative, digits) =>
      let e := Text.digitsValue digits
      if 0x80000000 ≤ e then none else some (if negative then -(e : Int) else e)

/-- The number that a numeral stands for; a double has no value beyond its range. -/
def Numeral.value? (n : Numeral) : Option Number :=
  let (significand, moreWhole, usedFraction) := fitting n.whole n.fraction
  let isInteger := n.fraction.isEmpty && n.exponent.isNone && moreWhole = 0
  if isInteger && !n.negative then some (.natural significand)
  else if isInteger && significand ≠ 0 && significand ≤ 0x8000000000000000 then some (.negative significand)
  else
    match n.exponent? with
    | some e =>
        (Binary64.ofScaled? n.negative significand (moreWhole - usedFraction + e)).map .float
    | none =>
        if significand ≠ 0 && (n.exponent.map (·.1)) = some false then none
        else some (.float (Binary64.ofRatio n.negative 0 1))

/-- A number whose first character stands at the place. -/
def readNumber (p : Place) : Found × Onward :=
  let negative := p.rest.head? = some '-'
  let digits := do
    let (whole, q) ← wholeDigits (if negative then p.advance 1 else p)
    let (fraction, q) ← fractionDigits q
    let (exponent, q) ← exponentDigits q
    return ((⟨negative, whole, fraction, exponent⟩ : Numeral), q)
  match digits with
  | .error f => stopped f
  | .ok (numeral, q) =>
      match numeral.value? with
      | some n => (.num n q.offset, .ok q)
      | none => (.bad ⟨.numberTooLarge, q.offset⟩ none, .ok q)

/-- A word whose first letter stands at the place. -/
def readWord (p : Place) (word : List Char) (value : Nat → Found) : Found × Onward :=
  let q := p.advance word.length
  if word.isPrefixOf p.rest then (value q.offset, .ok q)
  else
    let same := ((word.zip p.rest).takeWhile fun (a, b) => a = b).length
    let at' := p.advance same
    if at'.rest.isEmpty then stopped ⟨.endsIn .value, at'.offset⟩
    else stopped (faultAt at' .noWord)

mutual

/-- The value at a place, and the way on after it. The number bounds the values read. -/
def readValue : Nat → Place → Found × Onward
  | 0, p => stopped ⟨.endsIn .value, p.offset⟩
  | n + 1, p =>
      let p := next p
      match p.rest with
      | [] => stopped ⟨.endsIn .value, p.offset⟩
      | c :: _ =>
          if c = 'n' then readWord p "null".toList .null
          else if c = 't' then readWord p "true".toList (.bool true)
          else if c = 'f' then readWord p "false".toList (.bool false)
          else if c = '-' || isDigit c then readNumber p
          else if c = '\x22' then
            match readString p with
            | (.ok s, .ok q) => (.str s q.offset, .ok q)
            | (.ok _, .error f) => stopped f
            | (.error (used, passed), onward) => (.bad used passed, onward)
          else if c = '[' then
            let (items, onward) := readItems n true (p.advance 1)
            (.arr p.offset false items (onward.map (·.offset)), onward)
          else if c = '\x7b' then
            let (members, onward) := readMembers n true (p.advance 1)
            (.obj p.offset members (onward.map (·.offset)), onward)
          else stopped (faultAt p .noValue)

/-- The items of a list through its closing bracket. -/
def readItems : Nat → Bool → Place → List Found × Onward
  | 0, _, p => ([], .error ⟨.endsIn .list, p.offset⟩)
  | n + 1, isFirst, p =>
      let p := next p
      match p.rest with
      | [] => ([], .error ⟨.endsIn .list, p.offset⟩)
      | c :: _ =>
          if c = ']' then ([], .ok (p.advance 1))
          else if isFirst then readItem n p
          else if c = ',' then
            let q := next (p.advance 1)
            if q.rest.head? = some ']' then
              let f := faultAt q .trailingComma
              ([.bad f (some f)], .error f)
            else readItem n q
          else ([], .error (faultAt p .noListEnd))

/-- An item and those after it. -/
def readItem : Nat → Place → List Found × Onward
  | 0, p => ([], .error ⟨.endsIn .list, p.offset⟩)
  | n + 1, p =>
      match readValue n p with
      | (v, .error f) => ([v], .error f)
      | (v, .ok q) =>
          let (vs, onward) := readItems n false q
          (v :: vs, onward)

/-- The members of an object through its closing brace. -/
def readMembers : Nat → Bool → Place → List (Key × Found) × Onward
  | 0, _, p => ([], .error ⟨.endsIn .object, p.offset⟩)
  | n + 1, isFirst, p =>
      let p := next p
      match p.rest with
      | [] => ([], .error ⟨.endsIn .object, p.offset⟩)
      | c :: _ =>
          if c = '\x7d' then ([], .ok (p.advance 1))
          else if isFirst then readMember n p
          else if c = ',' then
            let q := next (p.advance 1)
            match q.rest.head? with
            | none => ([], .error ⟨.endsIn .value, q.offset⟩)
            | some '\x7d' => ([], .error (faultAt q .trailingComma))
            | some _ => readMember n q
          else ([], .error (faultAt p .noObjectEnd))

/-- A member and those after it. -/
def readMember : Nat → Place → List (Key × Found) × Onward
  | 0, p => ([], .error ⟨.endsIn .object, p.offset⟩)
  | n + 1, p =>
      if p.rest.head? ≠ some '\x22' then ([], .error (faultAt p .keyIsNoString))
      else
        let (text, onward) := readString p
        match onward with
        | .error f =>
            let key := match text with
              | .ok _ => .bad f (some f)
              | .error (used, passed) => .bad used passed
            ([(key, .bad f (some f))], .error f)
        | .ok q =>
            let key := match text with
              | .ok s => .name s q.offset
              | .error (used, passed) => .bad used passed
            let q := next q
            match q.rest with
            | [] =>
                let f : Fault := ⟨.endsIn .object, q.offset⟩
                ([(key, .bad f (some f))], .error f)
            | c :: _ =>
                if c ≠ ':' then
                  let f := faultAt q .noColon
                  ([(key, .bad f (some f))], .error f)
                else
                  match readValue n (q.advance 1) with
                  | (v, .error f) => ([(key, v)], .error f)
                  | (v, .ok q) =>
                      let (ms, onward) := readMembers n false q
                      ((key, v) :: ms, onward)

end

/-- What a text holds, and the place after it. -/
def Found.read (source : List Char) : Found × Onward :=
  readValue (4 * source.length + 8) (.head source)

end Mutagenesis.Json
