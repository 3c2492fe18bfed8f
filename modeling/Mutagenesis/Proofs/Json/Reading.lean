import Mutagenesis.Proofs.Json.Numbers
import Mutagenesis.Proofs.Json.Strings

/-!
# Reading part by part

`Holds` says that what was found in a text is a value, offsets aside. The steps of reading are told
here one by one: the blanks before a value, words and numbers, and what a list or an object does at
its brackets, commas and colons.
-/
namespace Mutagenesis.Json

open Text (Place isDigit numeral)

mutual

/-- What was found in a text is a value. -/
inductive Holds : Found → Json → Prop
  | null {stop} : Holds (.null stop) .null
  | bool {b stop} : Holds (.bool b stop) (.bool b)
  | nat {n stop} : Holds (.num (.natural n) stop) (.nat n)
  | float {n stop x y} (reads : ReadsAs x y) (value : ∀ stop, double (.num n stop) = .ok y) :
      Holds (.num n stop) (.float x)
  | str {s stop} : Holds (.str s stop) (.str s)
  | arr {start items stop vs} (each : HoldsAll items vs) :
      Holds (.arr start false items (.ok stop)) (.arr vs)
  | obj {start found stop members} (each : HoldsMembers found members) :
      Holds (.obj start found (.ok stop)) (.obj members)

inductive HoldsAll : List Found → List Json → Prop
  | nil : HoldsAll [] []
  | cons {v w vs ws} (first : Holds v w) (others : HoldsAll vs ws) : HoldsAll (v :: vs) (w :: ws)

inductive HoldsMembers : List (Key × Found) → List (String × Json) → Prop
  | nil : HoldsMembers [] []
  | cons {name stop v w found members} (first : Holds v w) (others : HoldsMembers found members) :
      HoldsMembers ((.name name stop, v) :: found) ((name, w) :: members)

end

mutual

/-- Whether the numbers of a value can be read: naturals have at most sixty-four bits, and the
reader accepts the written form of doubles. -/
def Writable : Json → Prop
  | null | bool _ | str _ => True
  | int n => 0 ≤ n ∧ n ≤ 0xFFFFFFFFFFFFFFFF
  | float x => ∃ y, ReadsAs x y
  | arr items => WritableAll items
  | obj members => WritableMembers members

def WritableAll : List Json → Prop
  | [] => True
  | v :: vs => Writable v ∧ WritableAll vs

def WritableMembers : List (String × Json) → Prop
  | [] => True
  | (_, v) :: members => Writable v ∧ WritableMembers members

end

/-! ## Blanks -/

/-- Characters that JSON counts as blank. -/
structure Blanks where
  chars : List Char
  blank : ∀ c ∈ chars, c ∈ [' ', '\n', '\t', '\r']

namespace Blanks

def none : Blanks := ⟨[], by simp⟩

def append (a b : Blanks) : Blanks :=
  ⟨a.chars ++ b.chars, List.forall_mem_append.2 ⟨a.blank, b.blank⟩⟩

theorem isSpace (b : Blanks) : ∀ c ∈ b.chars, isSpace c = true := by
  have blanks : [' ', '\n', '\t', '\r'].all Json.isSpace = true := by decide
  exact fun c hc => List.all_eq_true.1 blanks c (b.blank c hc)

theorem stopsNumber (b : Blanks) {rest : List Char} (h : StopsNumber rest) :
    StopsNumber (b.chars ++ rest) := by
  obtain ⟨chars, blank⟩ := b
  cases chars with
  | nil => exact h
  | cons c chars =>
      intro d hd
      obtain rfl : c = d := by simpa using hd
      have isBlank := blank c List.mem_cons_self
      simp only [List.mem_cons, List.not_mem_nil, or_false] at isBlank
      rcases isBlank with rfl | rfl | rfl | rfl <;> decide

end Blanks

theorem next_append (b : Blanks) (cs : List Char) (hcs : ∀ c ∈ cs.head?, isSpace c = false)
    (o : Nat) : ∃ q, next ⟨b.chars ++ cs, o⟩ = ⟨cs, q⟩ := by
  refine exists_place ?_
  rw [next, rest_passWhile, List.dropWhile_append_of_pos b.isSpace]
  cases cs with
  | nil => rfl
  | cons c cs => simp [hcs c rfl]

/-- A value begins after the blanks before it. -/
theorem readValue_blanks (b : Blanks) (cs : List Char) (hcs : ∀ c ∈ cs.head?, isSpace c = false)
    (fuel o : Nat) :
    ∃ q, readValue (fuel + 1) ⟨b.chars ++ cs, o⟩ = readValue (fuel + 1) ⟨cs, q⟩ := by
  obtain ⟨q, hq⟩ := next_append b cs hcs o
  have same : next ⟨cs, q⟩ = ⟨cs, q⟩ := next_eq_self hcs
  exact ⟨q, by simp only [readValue, hq, same]⟩

/-! ## Words and numbers -/

theorem readWord_append (word : List Char) (value : Nat → Found) (rest : List Char) (o : Nat) :
    ∃ q, readWord ⟨word ++ rest, o⟩ word value = (value q, .ok ⟨rest, q⟩) := by
  obtain ⟨q, hq⟩ := exists_place (show
    (Place.advance ⟨word ++ rest, o⟩ word.length).rest = rest by simp [Place.advance])
  have begins : word.isPrefixOf (word ++ rest) = true :=
    List.isPrefixOf_iff_prefix.2 (List.prefix_append word rest)
  exact ⟨q, by simp only [readWord, begins, if_true, hq]⟩

theorem readValue_number {c : Char} (hc : c = '-' ∨ isDigit c = true) (cs : List Char)
    (fuel o : Nat) : readValue (fuel + 1) ⟨c :: cs, o⟩ = readNumber ⟨c :: cs, o⟩ := by
  have visible : isSpace c = false := by
    obtain rfl | hc := hc
    · rfl
    · exact isSpace_of_isDigit hc
  have same : next ⟨c :: cs, o⟩ = ⟨c :: cs, o⟩ := next_eq_self (by simpa using visible)
  have noWord : c ≠ 'n' ∧ c ≠ 't' ∧ c ≠ 'f' := by
    refine ⟨?_, ?_, ?_⟩ <;> rintro rfl <;> revert hc <;> decide
  have number : (c = '-' || isDigit c) = true := by simpa using hc
  simp only [readValue, same, if_neg noWord.1, if_neg noWord.2.1, if_neg noWord.2.2, number,
    if_true]

theorem intText_of_nonneg {n : Int} (h : 0 ≤ n) : intText n = Text.numeral n.toNat := by
  have hn : n.natAbs = n.toNat := by omega
  rw [intText, if_neg (by omega), hn]

theorem readValue_natural {n : Int} (h : Writable (.int n)) {rest : List Char}
    (stops : StopsNumber rest) (fuel o : Nat) :
    ∃ found q, readValue (fuel + 1) ⟨intText n ++ rest, o⟩ = (found, .ok ⟨rest, q⟩) ∧
      Holds found (.int n) := by
  obtain ⟨k, rfl⟩ := Int.eq_ofNat_of_zero_le h.1
  have bound : k ≤ 0xFFFFFFFFFFFFFFFF := by
    have := h.2
    omega
  obtain ⟨c, cs, hk⟩ := List.exists_cons_of_ne_nil (Text.numeral_ne_nil k)
  obtain ⟨_, _, read⟩ := readNumber_numeral bound 0
  obtain ⟨stop, q, read⟩ := readNumber_append stops read o
  have text : intText k = numeral k := by simpa using intText_of_nonneg (Int.natCast_nonneg k)
  have first := Text.isDigit_of_mem_numeral (n := k) (hk ▸ List.mem_cons_self)
  refine ⟨.num (.natural k) stop, q, ?_, .nat⟩
  rw [text, hk, List.cons_append, readValue_number (.inr first), ← List.cons_append, ← hk, read]
  rfl

theorem readValue_double {x y : Binary64} (h : ReadsAs x y) {rest : List Char}
    (stops : StopsNumber rest) (fuel o : Nat) :
    ∃ found q, readValue (fuel + 1) ⟨x.dataText ++ rest, o⟩ = (found, .ok ⟨rest, q⟩) ∧
      Holds found (.float x) := by
  obtain ⟨n, _, _, read, value, c, cs, hx, first⟩ := readNumber_dataText h
  obtain ⟨stop, q, read⟩ := readNumber_append stops read o
  refine ⟨.num n stop, q, ?_, .float h value⟩
  rw [hx, List.cons_append, readValue_number first, ← List.cons_append, ← hx, read]
  rfl

/-! ## Lists and objects -/

/-- A list is read when its items are. -/
theorem readValue_list (cs : List Char) {rest : List Char} {P : List Found → Prop} {fuel : Nat}
    (items : ∀ o, ∃ found q, readItems fuel true ⟨cs, o⟩ = (found, .ok ⟨rest, q⟩) ∧ P found)
    (o : Nat) :
    ∃ found q, readValue (fuel + 1) ⟨'[' :: cs, o⟩ = (.arr o false found (.ok q), .ok ⟨rest, q⟩) ∧
      P found := by
  have same : next ⟨'[' :: cs, o⟩ = ⟨'[' :: cs, o⟩ := next_eq_self (by simp [isSpace])
  obtain ⟨found, q, read, holds⟩ := items (Place.advance ⟨'[' :: cs, o⟩ 1).offset
  have read : readItems fuel true (Place.advance ⟨'[' :: cs, o⟩ 1) = (found, .ok ⟨rest, q⟩) := read
  refine ⟨found, q, ?_, holds⟩
  simp only [readValue, same, read]
  simp [isDigit, Text.digitValue?, Except.map]

/-- An object is read when its members are. -/
theorem readValue_object (cs : List Char) {rest : List Char} {P : List (Key × Found) → Prop}
    {fuel : Nat}
    (each : ∀ o, ∃ found q, readMembers fuel true ⟨cs, o⟩ = (found, .ok ⟨rest, q⟩) ∧ P found)
    (o : Nat) :
    ∃ found q, readValue (fuel + 1) ⟨'\x7b' :: cs, o⟩ =
      (.obj o found (.ok q), .ok ⟨rest, q⟩) ∧ P found := by
  have same : next ⟨'\x7b' :: cs, o⟩ = ⟨'\x7b' :: cs, o⟩ := next_eq_self (by simp [isSpace])
  obtain ⟨found, q, read, holds⟩ := each (Place.advance ⟨'\x7b' :: cs, o⟩ 1).offset
  have read : readMembers fuel true (Place.advance ⟨'\x7b' :: cs, o⟩ 1) =
      (found, .ok ⟨rest, q⟩) := read
  refine ⟨found, q, ?_, holds⟩
  simp only [readValue, same, read]
  simp [isDigit, Text.digitValue?, Except.map]

/-- The bracket after the last item closes a list. -/
theorem readItems_close (b : Blanks) (isFirst : Bool) (rest : List Char) (fuel o : Nat) :
    ∃ q, readItems (fuel + 1) isFirst ⟨b.chars ++ ']' :: rest, o⟩ = ([], .ok ⟨rest, q⟩) := by
  obtain ⟨q, hq⟩ := next_append b (']' :: rest) (by simp [isSpace]) o
  refine ⟨(Place.advance ⟨']' :: rest, q⟩ 1).offset, ?_⟩
  simp [readItems, hq, Place.advance]

section Items

variable {c : Char} {cs : List Char}

theorem readItems_first (b : Blanks) (hspace : isSpace c = false) (hclose : c ≠ ']')
    (fuel o : Nat) :
    ∃ q, readItems (fuel + 1) true ⟨b.chars ++ c :: cs, o⟩ = readItem fuel ⟨c :: cs, q⟩ := by
  obtain ⟨q, hq⟩ := next_append b (c :: cs) (by simpa using hspace) o
  exact ⟨q, by simp [readItems, hq, hclose]⟩

/-- A comma comes before each further item. -/
theorem readItems_next (b b' : Blanks) (hspace : isSpace c = false) (hclose : c ≠ ']')
    (fuel o : Nat) :
    ∃ q, readItems (fuel + 1) false ⟨b.chars ++ ',' :: (b'.chars ++ c :: cs), o⟩ =
      readItem fuel ⟨c :: cs, q⟩ := by
  obtain ⟨q, comma⟩ := next_append b (',' :: (b'.chars ++ c :: cs)) (by simp [isSpace]) o
  obtain ⟨q', hq⟩ := next_append b' (c :: cs) (by simpa using hspace)
    (Place.advance ⟨',' :: (b'.chars ++ c :: cs), q⟩ 1).offset
  have after : next (Place.advance ⟨',' :: (b'.chars ++ c :: cs), q⟩ 1) = ⟨c :: cs, q'⟩ := hq
  exact ⟨q', by simp [readItems, comma, after, hclose]⟩

theorem readItem_eq {fuel : Nat} {p q : Place} {v : Found} (h : readValue fuel p = (v, .ok q)) :
    readItem (fuel + 1) p =
      match readItems fuel false q with
      | (vs, onward) => (v :: vs, onward) := by
  simp only [readItem, h]

end Items

/-- The brace after the last member closes an object. -/
theorem readMembers_close (b : Blanks) (isFirst : Bool) (rest : List Char) (fuel o : Nat) :
    ∃ q, readMembers (fuel + 1) isFirst ⟨b.chars ++ '\x7d' :: rest, o⟩ = ([], .ok ⟨rest, q⟩) := by
  obtain ⟨q, hq⟩ := next_append b ('\x7d' :: rest) (by simp [isSpace]) o
  refine ⟨(Place.advance ⟨'\x7d' :: rest, q⟩ 1).offset, ?_⟩
  simp [readMembers, hq, Place.advance]

theorem readMembers_first (b : Blanks) (cs : List Char) (fuel o : Nat) :
    ∃ q, readMembers (fuel + 1) true ⟨b.chars ++ '\x22' :: cs, o⟩ =
      readMember fuel ⟨'\x22' :: cs, q⟩ := by
  obtain ⟨q, hq⟩ := next_append b ('\x22' :: cs) (by simp [isSpace]) o
  exact ⟨q, by simp [readMembers, hq]⟩

/-- A comma comes before each further member. -/
theorem readMembers_next (b b' : Blanks) (cs : List Char) (fuel o : Nat) :
    ∃ q, readMembers (fuel + 1) false ⟨b.chars ++ ',' :: (b'.chars ++ '\x22' :: cs), o⟩ =
      readMember fuel ⟨'\x22' :: cs, q⟩ := by
  obtain ⟨q, comma⟩ := next_append b (',' :: (b'.chars ++ '\x22' :: cs)) (by simp [isSpace]) o
  obtain ⟨q', hq⟩ := next_append b' ('\x22' :: cs) (by simp [isSpace])
    (Place.advance ⟨',' :: (b'.chars ++ '\x22' :: cs), q⟩ 1).offset
  have after : next (Place.advance ⟨',' :: (b'.chars ++ '\x22' :: cs), q⟩ 1) =
      ⟨'\x22' :: cs, q'⟩ := hq
  exact ⟨q', by simp [readMembers, comma, after]⟩

/-- A member is its key, a colon and its value. -/
theorem readMember_of_parts {cs : List Char} {o fuel : Nat} {p q q' : Place} {v : Found}
    {text : Except (Fault × Option Fault) String} (quote : p.rest.head? = some '\x22')
    (key : readString p = (text, .ok q)) (colon : next q = ⟨':' :: cs, o⟩)
    (value : readValue fuel (Place.advance ⟨':' :: cs, o⟩ 1) = (v, .ok q')) :
    readMember (fuel + 1) p =
      match readMembers fuel false q' with
      | (found, onward) => ((keyOf text q.offset, v) :: found, onward) := by
  have noQuote : ¬ (p.rest.head? ≠ some '\x22') := fun differs => differs quote
  rw [readMember, if_neg noQuote]
  simp only [key, colon, value]
  rfl

end Mutagenesis.Json
