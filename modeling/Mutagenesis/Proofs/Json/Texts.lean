import Mathlib.Data.List.Forall2
import Mutagenesis.Proofs.Json.Numerals
import Mutagenesis.Proofs.Json.Reading

/-!
# Any text of a value

The program writes a value in one way, but others may write it in many: with blanks between its
parts and with escapes in its strings. `IsText` says of a text that it writes some value, and
`IsTextOf` of which one. Any text of a value whose numbers can be read is read as that value,
whatever follows it; any text at all is read through to its end, and does no harm where it is passed
over, also when it has a number beyond the range of doubles or half of a surrogate pair.
-/
namespace Mutagenesis.Json

open Text (Place isDigit)

variable {body rest : List Char}

/-! ## Texts -/

/-- An item of a list, with the blanks around it. -/
structure ItemText where
  before : Blanks
  value : List Char
  after : Blanks

def ItemText.text (i : ItemText) : List Char := i.before.chars ++ (i.value ++ i.after.chars)

theorem ItemText.length_text (i : ItemText) :
    i.text.length = i.before.chars.length + (i.value.length + i.after.chars.length) := by
  simp [text]

/-- A member of an object, with the blanks around its parts. -/
structure MemberText where
  before : Blanks
  /-- What stands between the quotes of the key. -/
  key : List Char
  afterKey : Blanks
  beforeValue : Blanks
  value : List Char
  after : Blanks

def MemberText.text (m : MemberText) : List Char :=
  m.before.chars ++ '\x22' :: (m.key ++ '\x22' :: (m.afterKey.chars ++
    ':' :: (m.beforeValue.chars ++ (m.value ++ m.after.chars))))

theorem MemberText.length_text (m : MemberText) : m.value.length + 3 ≤ m.text.length := by
  simp only [text, List.length_cons, List.length_append]
  omega

/-- Texts with a comma between each two. -/
def listed : List (List Char) → List Char
  | [] => []
  | t :: ts => t ++ ts.flatMap (',' :: ·)

/-- The text of a list, with blanks before the closing bracket. -/
def listText (items : List ItemText) (gap : Blanks) : List Char :=
  '[' :: (listed (items.map ItemText.text) ++ (gap.chars ++ [']']))

/-- The text of an object, with blanks before the closing brace. -/
def objectText (members : List MemberText) (gap : Blanks) : List Char :=
  '\x7b' :: (listed (members.map MemberText.text) ++ (gap.chars ++ ['\x7d']))

/-- The texts of values. -/
inductive IsText : List Char → Prop
  | word {text} (h : text ∈ ["null".toList, "true".toList, "false".toList]) : IsText text
  | numeral {n : Numeral} {text} (h : n.IsText text) : IsText text
  | string {body : List Char} (h : IsStringBody body) : IsText ('\x22' :: (body ++ ['\x22']))
  | list {items : List ItemText} (gap : Blanks) (values : ∀ i ∈ items, IsText i.value) :
      IsText (listText items gap)
  | object {members : List MemberText} (gap : Blanks)
      (keys : ∀ m ∈ members, IsStringBody m.key) (values : ∀ m ∈ members, IsText m.value) :
      IsText (objectText members gap)

mutual

/-- The texts of a value: its numbers are written as the program writes them, all else in any
way. -/
inductive IsTextOf : Json → List Char → Prop
  | null : IsTextOf .null (leafText .null)
  | bool (b : Bool) : IsTextOf (.bool b) (leafText (.bool b))
  | int (n : Int) : IsTextOf (.int n) (leafText (.int n))
  | float (x : Binary64) : IsTextOf (.float x) (leafText (.float x))
  | str {s : String} {body : List Char} (h : Spells body s.toList) :
      IsTextOf (.str s) ('\x22' :: (body ++ ['\x22']))
  | arr {vs : List Json} {items : List ItemText} (gap : Blanks) (each : AreTextsOf vs items) :
      IsTextOf (.arr vs) (listText items gap)
  | obj {vs : List (String × Json)} {members : List MemberText} (gap : Blanks)
      (each : AreMembersOf vs members) : IsTextOf (.obj vs) (objectText members gap)

inductive AreTextsOf : List Json → List ItemText → Prop
  | nil : AreTextsOf [] []
  | cons {v vs i items} (first : IsTextOf v i.value) (others : AreTextsOf vs items) :
      AreTextsOf (v :: vs) (i :: items)

inductive AreMembersOf : List (String × Json) → List MemberText → Prop
  | nil : AreMembersOf [] []
  | cons {name v vs m members} (key : Spells m.key name.toList) (first : IsTextOf v m.value)
      (others : AreMembersOf vs members) : AreMembersOf ((name, v) :: vs) (m :: members)

end

/-! ## Reading through a text -/

/-- Whether a text is read through as a value of which something holds, whatever follows it. -/
structure Readable (text : List Char) (P : Found → Prop) : Prop where
  head : ∃ c cs, text = c :: cs ∧ isSpace c = false ∧ c ≠ ']'
  read : ∀ (fuel : Nat) {rest : List Char}, 2 * text.length ≤ fuel → StopsNumber rest → ∀ o,
    ∃ found q, readValue fuel ⟨text ++ rest, o⟩ = (found, .ok ⟨rest, q⟩) ∧ P found

theorem Readable.imp {text : List Char} {P Q : Found → Prop} (h : Readable text P)
    (weaker : ∀ found, P found → Q found) : Readable text Q := by
  refine ⟨h.head, ?_⟩
  intro fuel rest room stops o
  obtain ⟨found, q, read, holds⟩ := h.read fuel room stops o
  exact ⟨found, q, read, weaker found holds⟩

section Leaves

variable {text : List Char} {P : Found → Prop}

/-- A text that is read whatever bounds the values to read. -/
theorem readable_of_head {c : Char} {cs : List Char} (head : text = c :: cs)
    (visible : isSpace c = false ∧ c ≠ ']')
    (read : ∀ rest, StopsNumber rest → ∀ fuel o, ∃ found q,
      readValue (fuel + 1) ⟨text ++ rest, o⟩ = (found, .ok ⟨rest, q⟩) ∧ P found) :
    Readable text P := by
  refine ⟨⟨c, cs, head, visible⟩, ?_⟩
  intro fuel rest room stops o
  obtain ⟨n, rfl⟩ : ∃ n, fuel = n + 1 := ⟨fuel - 1, by simp [head] at room; omega⟩
  exact read rest stops n o

theorem readable_word {word : String} (value : Nat → Found)
    (begins : (word, value) ∈ [("null", .null), ("true", .bool true), ("false", .bool false)]) :
    Readable word.toList fun found => ∃ stop, found = value stop := by
  have read : ∀ rest fuel o, readValue (fuel + 1) ⟨word.toList ++ rest, o⟩ =
      readWord ⟨word.toList ++ rest, o⟩ word.toList value := by
    simp only [List.mem_cons, Prod.mk.injEq, List.not_mem_nil, or_false] at begins
    rcases begins with ⟨rfl, rfl⟩ | ⟨rfl, rfl⟩ | ⟨rfl, rfl⟩ <;> exact fun _ _ _ => rfl
  obtain ⟨c, cs, head, visible⟩ : ∃ c cs, word.toList = c :: cs ∧ isSpace c = false ∧ c ≠ ']' := by
    simp only [List.mem_cons, Prod.mk.injEq, List.not_mem_nil, or_false] at begins
    rcases begins with ⟨rfl, -⟩ | ⟨rfl, -⟩ | ⟨rfl, -⟩ <;> exact ⟨_, _, rfl, by decide⟩
  refine readable_of_head head visible fun rest _ fuel o => ?_
  obtain ⟨q, through⟩ := readWord_append word.toList value rest o
  exact ⟨_, q, by rw [read, through], q, rfl⟩

/-- A number begins with a character that is no blank and closes nothing. -/
theorem isVisible_of_number {c : Char} (h : c = '-' ∨ isDigit c = true) :
    isSpace c = false ∧ c ≠ ']' := by
  obtain rfl | digit := h
  · decide
  · refine ⟨isSpace_of_isDigit digit, ?_⟩
    rintro rfl
    revert digit
    decide

theorem Numeral.IsText.exists_cons {n : Numeral} {text : List Char} (h : n.IsText text) :
    ∃ c cs, text = c :: cs ∧ (c = '-' ∨ isDigit c = true) := by
  obtain ⟨whole, point, power, -, -, rfl⟩ := h
  obtain ⟨c, cs, hc⟩ := List.exists_cons_of_ne_nil whole.ne_nil
  have digit : isDigit c = true := whole.isDigit c (hc ▸ List.mem_cons_self)
  cases n.negative with
  | true => exact ⟨'-', _, rfl, .inl rfl⟩
  | false => exact ⟨c, cs ++ (point ++ power), by simp [hc], .inr digit⟩

theorem Numeral.IsText.readable {n : Numeral} (h : n.IsText text) :
    Readable text fun found => ∃ stop, found = n.found stop := by
  obtain ⟨c, cs, head, first⟩ := h.exists_cons
  refine readable_of_head head (isVisible_of_number first) fun rest stops fuel o => ?_
  obtain ⟨q, read⟩ := h.read stops o
  exact ⟨_, q, by rw [← read, head, List.cons_append, readValue_number first], q, rfl⟩

theorem readable_natural {n : Int} (h : Writable (.int n)) :
    Readable (intText n) fun found => Holds found (.int n) := by
  obtain ⟨c, cs, head⟩ := List.exists_cons_of_ne_nil (Text.numeral_ne_nil n.toNat)
  have digit := Text.isDigit_of_mem_numeral (n := n.toNat) (head ▸ List.mem_cons_self)
  exact readable_of_head ((intText_of_nonneg h.1).trans head) (isVisible_of_number (.inr digit))
    fun rest stops fuel o => readValue_natural h stops fuel o

theorem readable_double {x y : Binary64} (h : ReadsAs x y) :
    Readable x.dataText fun found => Holds found (.float x) := by
  obtain ⟨_, _, _, -, -, c, cs, head, first⟩ := readNumber_dataText h
  exact readable_of_head head (isVisible_of_number first)
    fun rest stops fuel o => readValue_double h stops fuel o

/-- What a key is where it stands as a value. -/
def Key.asValue : Key → Found
  | .name text stop => .str text stop
  | .bad used passed => .bad used passed

theorem ReadsKey.readable {K : Key → Prop} (h : ReadsKey body K) :
    Readable ('\x22' :: (body ++ ['\x22'])) fun found => ∃ key, K key ∧ found = key.asValue := by
  refine readable_of_head rfl (by decide) fun rest _ fuel o => ?_
  obtain ⟨text, q, read, isKey⟩ := h rest o
  have same : next ⟨'\x22' :: (body ++ '\x22' :: rest), o⟩ =
      ⟨'\x22' :: (body ++ '\x22' :: rest), o⟩ := next_eq_self (by simp [isSpace])
  have whole : '\x22' :: (body ++ ['\x22']) ++ rest = '\x22' :: (body ++ '\x22' :: rest) := by simp
  refine ⟨_, q, ?_, keyOf text q, isKey, rfl⟩
  simp only [whole, readValue, same, read]
  cases text <;> simp [isDigit, Text.digitValue?, keyOf, Key.asValue]

end Leaves

/-- What follows a part of a list or an object ends a number. -/
theorem stopsNumber_listed (parts : List (List Char)) (gap : Blanks) {close : Char}
    (closes : close = ']' ∨ close = '\x7d') (rest : List Char) :
    StopsNumber (parts.flatMap (',' :: ·) ++ (gap.chars ++ close :: rest)) := by
  cases parts with
  | nil =>
      refine gap.stopsNumber ?_
      intro c hc
      obtain rfl : close = c := by simpa using hc
      rcases closes with rfl | rfl <;> decide
  | cons part parts =>
      intro c hc
      obtain rfl : ',' = c := by simpa using hc
      decide

/-! ## Reading lists -/

section Lists

variable {α : Type} {R : α → Found → Prop} {more : List Char} {fuel : Nat}

/-- An item is read, and then what follows the blanks after it. -/
theorem readItem_of_readable {i : ItemText} {a : α} {as : List α} (h : Readable i.value (R a))
    (room : 2 * i.value.length ≤ fuel) (stops : StopsNumber more)
    (others : ∀ o, ∃ found q, readItems fuel false ⟨i.after.chars ++ more, o⟩ =
      (found, .ok ⟨rest, q⟩) ∧ List.Forall₂ R as found) (o : Nat) :
    ∃ found q, readItem (fuel + 1) ⟨i.value ++ (i.after.chars ++ more), o⟩ =
      (found, .ok ⟨rest, q⟩) ∧ List.Forall₂ R (a :: as) found := by
  obtain ⟨v, q, hv, pv⟩ := h.read fuel room (i.after.stopsNumber stops) o
  obtain ⟨found, q', hfound, each⟩ := others q
  exact ⟨v :: found, q', by rw [readItem_eq hv, hfound], .cons pv each⟩

/-- The items after one that has been read. -/
theorem readItems_after {as : List α} {items : List ItemText}
    (each : List.Forall₂ (fun a i => Readable i.value (R a)) as items) (b gap : Blanks)
    (room : 2 * ((items.map ItemText.text).flatMap (',' :: ·)).length < fuel) (rest : List Char)
    (o : Nat) :
    ∃ found q, readItems fuel false ⟨b.chars ++ ((items.map ItemText.text).flatMap (',' :: ·) ++
      (gap.chars ++ ']' :: rest)), o⟩ = (found, .ok ⟨rest, q⟩) ∧ List.Forall₂ R as found := by
  induction each generalizing b fuel o with
  | nil =>
      obtain ⟨n, rfl⟩ := Nat.exists_eq_add_of_lt room
      obtain ⟨q, hq⟩ := readItems_close (b.append gap) false rest n o
      exact ⟨[], q, by simpa [Blanks.append] using hq, .nil⟩
  | @cons a i as items first others ih =>
      obtain ⟨c, cs, hc, visible, opens⟩ := first.head
      simp only [List.map_cons, List.flatMap_cons, ItemText.length_text, List.length_cons,
        List.length_append] at room
      obtain ⟨n, rfl⟩ : ∃ n, fuel = n + 2 := ⟨fuel - 2, by omega⟩
      let left := (items.map ItemText.text).flatMap (',' :: ·) ++ (gap.chars ++ ']' :: rest)
      have text : b.chars ++ (((i :: items).map ItemText.text).flatMap (',' :: ·) ++
          (gap.chars ++ ']' :: rest)) =
            b.chars ++ ',' :: (i.before.chars ++ c :: (cs ++ (i.after.chars ++ left))) := by
        simp [ItemText.text, hc, left]
      obtain ⟨q, hq⟩ := readItems_next b i.before visible opens (n + 1) o
      rw [text, hq, ← List.cons_append, ← hc]
      exact readItem_of_readable first (by omega) (stopsNumber_listed _ gap (.inl rfl) rest)
        (fun o => ih i.after (by omega) o) q

/-- A list is read when its items are. -/
theorem readable_list {as : List α} {items : List ItemText}
    (each : List.Forall₂ (fun a i => Readable i.value (R a)) as items) (gap : Blanks) :
    Readable (listText items gap) fun found =>
      ∃ start found' stop,
        found = .arr start false found' (.ok stop) ∧ List.Forall₂ R as found' := by
  refine ⟨⟨'[', _, rfl, by decide, by decide⟩, ?_⟩
  intro fuel rest room _ o
  simp only [listText, List.length_cons, List.length_append] at room
  obtain ⟨n, rfl⟩ : ∃ n, fuel = n + 2 := ⟨fuel - 2, by omega⟩
  have inside (o : Nat) : ∃ found q, readItems (n + 1) true
      ⟨listed (items.map ItemText.text) ++ (gap.chars ++ ']' :: rest), o⟩ =
        (found, .ok ⟨rest, q⟩) ∧ List.Forall₂ R as found := by
    cases each with
    | nil =>
        obtain ⟨q, hq⟩ := readItems_close gap true rest n o
        exact ⟨[], q, hq, .nil⟩
    | @cons a i as items first others =>
        obtain ⟨c, cs, hc, visible, opens⟩ := first.head
        simp only [listed, List.map_cons, ItemText.length_text, List.length_append] at room
        let left := (items.map ItemText.text).flatMap (',' :: ·) ++ (gap.chars ++ ']' :: rest)
        have text : listed ((i :: items).map ItemText.text) ++ (gap.chars ++ ']' :: rest) =
            i.before.chars ++ c :: (cs ++ (i.after.chars ++ left)) := by
          simp [listed, ItemText.text, hc, left]
        obtain ⟨q, hq⟩ := readItems_first i.before visible opens n o
        obtain ⟨n, rfl⟩ : ∃ k, n = k + 1 := ⟨n - 1, by omega⟩
        rw [text, hq, ← List.cons_append, ← hc]
        exact readItem_of_readable first (by omega) (stopsNumber_listed _ gap (.inl rfl) rest)
          (fun o => readItems_after others i.after gap (by omega) rest o) q
  obtain ⟨found, q, read, each⟩ := readValue_list _ inside o
  exact ⟨_, q, by simpa [listText] using read, o, found, q, rfl, each⟩

end Lists

/-! ## Reading objects -/

/-- Whether a member is read through as a key and a value of which something holds. -/
def MemberText.Reads (m : MemberText) (Q : Key × Found → Prop) : Prop :=
  ∃ K P, ReadsKey m.key K ∧ Readable m.value P ∧ ∀ key v, K key → P v → Q (key, v)

section Objects

variable {α : Type} {Q : α → Key × Found → Prop} {more : List Char} {fuel : Nat}

/-- A member is read, and then what follows the blanks after it. -/
theorem readMember_of_reads {m : MemberText} {a : α} {as : List α} (h : m.Reads (Q a))
    (room : 2 * m.value.length < fuel) (stops : StopsNumber more)
    (others : ∀ o, ∃ found q, readMembers fuel false ⟨m.after.chars ++ more, o⟩ =
      (found, .ok ⟨rest, q⟩) ∧ List.Forall₂ Q as found) (o : Nat) :
    ∃ found q, readMember (fuel + 1)
      ⟨'\x22' :: (m.key ++ '\x22' :: (m.afterKey.chars ++ ':' :: (m.beforeValue.chars ++
        (m.value ++ (m.after.chars ++ more))))), o⟩ = (found, .ok ⟨rest, q⟩) ∧
        List.Forall₂ Q (a :: as) found := by
  obtain ⟨K, P, readsKey, readable, both⟩ := h
  obtain ⟨n, rfl⟩ : ∃ n, fuel = n + 1 := ⟨fuel - 1, by omega⟩
  let value := m.value ++ (m.after.chars ++ more)
  obtain ⟨text, q, hkey, isKey⟩ := readsKey (m.afterKey.chars ++ ':' ::
    (m.beforeValue.chars ++ value)) o
  obtain ⟨q', colon⟩ := next_append m.afterKey (':' :: (m.beforeValue.chars ++ value))
    (by simp [isSpace]) q
  obtain ⟨c, cs, hc, visible, -⟩ := readable.head
  obtain ⟨q₁, blank⟩ := readValue_blanks m.beforeValue value
    (by simpa [value, hc] using visible) n
    (Place.advance ⟨':' :: (m.beforeValue.chars ++ value), q'⟩ 1).offset
  obtain ⟨v, q₂, hv, isValue⟩ := readable.read (n + 1) (by omega)
    (m.after.stopsNumber stops) q₁
  obtain ⟨found, q₃, hfound, each⟩ := others q₂
  refine ⟨(keyOf text q, v) :: found, q₃, ?_, .cons (both _ _ isKey isValue) each⟩
  rw [readMember_of_parts rfl hkey colon (blank.trans hv), hfound]

/-- The members after one that has been read. -/
theorem readMembers_after {as : List α} {members : List MemberText}
    (each : List.Forall₂ (fun a m => m.Reads (Q a)) as members) (b gap : Blanks)
    (room : 2 * ((members.map MemberText.text).flatMap (',' :: ·)).length < fuel)
    (rest : List Char) (o : Nat) :
    ∃ found q, readMembers fuel false
      ⟨b.chars ++ ((members.map MemberText.text).flatMap (',' :: ·) ++
        (gap.chars ++ '\x7d' :: rest)), o⟩ = (found, .ok ⟨rest, q⟩) ∧
        List.Forall₂ Q as found := by
  induction each generalizing b fuel o with
  | nil =>
      obtain ⟨n, rfl⟩ := Nat.exists_eq_add_of_lt room
      obtain ⟨q, hq⟩ := readMembers_close (b.append gap) false rest n o
      exact ⟨[], q, by simpa [Blanks.append] using hq, .nil⟩
  | @cons a m as members first others ih =>
      have long := m.length_text
      simp only [List.map_cons, List.flatMap_cons, List.length_cons, List.length_append] at room
      obtain ⟨n, rfl⟩ : ∃ n, fuel = n + 2 := ⟨fuel - 2, by omega⟩
      let left := (members.map MemberText.text).flatMap (',' :: ·) ++ (gap.chars ++ '\x7d' :: rest)
      have text : b.chars ++ (((m :: members).map MemberText.text).flatMap (',' :: ·) ++
          (gap.chars ++ '\x7d' :: rest)) =
            b.chars ++ ',' :: (m.before.chars ++ '\x22' :: (m.key ++ '\x22' :: (m.afterKey.chars ++
              ':' :: (m.beforeValue.chars ++ (m.value ++ (m.after.chars ++ left)))))) := by
        simp [MemberText.text, left]
      obtain ⟨q, hq⟩ := readMembers_next b m.before _ (n + 1) o
      rw [text, hq]
      exact readMember_of_reads first (by omega) (stopsNumber_listed _ gap (.inr rfl) rest)
        (fun o => ih m.after (by omega) o) q

/-- An object is read when its members are. -/
theorem readable_object {as : List α} {members : List MemberText}
    (each : List.Forall₂ (fun a m => m.Reads (Q a)) as members) (gap : Blanks) :
    Readable (objectText members gap) fun found =>
      ∃ start found' stop, found = .obj start found' (.ok stop) ∧ List.Forall₂ Q as found' := by
  refine ⟨⟨'\x7b', _, rfl, by decide, by decide⟩, ?_⟩
  intro fuel rest room _ o
  simp only [objectText, List.length_cons, List.length_append] at room
  obtain ⟨n, rfl⟩ : ∃ n, fuel = n + 2 := ⟨fuel - 2, by omega⟩
  have inside (o : Nat) : ∃ found q, readMembers (n + 1) true
      ⟨listed (members.map MemberText.text) ++ (gap.chars ++ '\x7d' :: rest), o⟩ =
        (found, .ok ⟨rest, q⟩) ∧ List.Forall₂ Q as found := by
    cases each with
    | nil =>
        obtain ⟨q, hq⟩ := readMembers_close gap true rest n o
        exact ⟨[], q, hq, .nil⟩
    | @cons a m as members first others =>
        have long := m.length_text
        simp only [listed, List.map_cons, List.length_append] at room
        let left := (members.map MemberText.text).flatMap (',' :: ·) ++
          (gap.chars ++ '\x7d' :: rest)
        have text : listed ((m :: members).map MemberText.text) ++ (gap.chars ++ '\x7d' :: rest) =
            m.before.chars ++ '\x22' :: (m.key ++ '\x22' :: (m.afterKey.chars ++
              ':' :: (m.beforeValue.chars ++ (m.value ++ (m.after.chars ++ left))))) := by
          simp [listed, MemberText.text, left]
        obtain ⟨q, hq⟩ := readMembers_first m.before _ n o
        obtain ⟨n, rfl⟩ : ∃ k, n = k + 1 := ⟨n - 1, by omega⟩
        rw [text, hq]
        exact readMember_of_reads first (by omega) (stopsNumber_listed _ gap (.inr rfl) rest)
          (fun o => readMembers_after others m.after gap (by omega) rest o) q
  obtain ⟨found, q, read, each⟩ := readValue_object _ inside o
  exact ⟨_, q, by simpa [objectText] using read, o, found, q, rfl, each⟩

end Objects

/-! ## Passing over any text -/

theorem passItems_eq_ok {items : List Found} (each : ∀ x ∈ items, x.pass = .ok ()) :
    Found.passItems items = .ok () := by
  induction items with
  | nil => rfl
  | cons x items ih =>
      rw [List.forall_mem_cons] at each
      simp [Found.passItems, each.1, ih each.2, bind, Except.bind]

theorem passMembers_eq_ok {members : List (Key × Found)}
    (each : ∀ m ∈ members, m.1.IsPassable ∧ m.2.pass = .ok ()) :
    Found.passMembers members = .ok () := by
  induction members with
  | nil => rfl
  | cons m members ih =>
      obtain ⟨key, v⟩ := m
      rw [List.forall_mem_cons] at each
      obtain ⟨⟨passable, pass⟩, others⟩ := each
      cases key with
      | name text stop => simp [Found.passMembers, pass, ih others, bind, Except.bind]
      | bad used passed =>
          cases passed with
          | none => simp [Found.passMembers, pass, ih others, bind, Except.bind]
          | some fault => exact absurd rfl (passable used fault)

/-- Any text of a value is read through, and does no harm where it is passed over. -/
theorem IsText.readable {text : List Char} (h : IsText text) :
    Readable text fun found => found.pass = .ok () := by
  induction h with
  | word h =>
      simp only [List.mem_cons, List.not_mem_nil, or_false] at h
      rcases h with rfl | rfl | rfl
      · exact (readable_word .null (by simp)).imp fun _ ⟨_, same⟩ => same ▸ rfl
      · exact (readable_word (.bool true) (by simp)).imp fun _ ⟨_, same⟩ => same ▸ rfl
      · exact (readable_word (.bool false) (by simp)).imp fun _ ⟨_, same⟩ => same ▸ rfl
  | numeral h =>
      refine h.readable.imp ?_
      rintro _ ⟨stop, rfl⟩
      unfold Numeral.found
      split <;> rfl
  | string h =>
      refine h.readsKey.readable.imp ?_
      rintro _ ⟨key, passable, rfl⟩
      cases key with
      | name text stop => rfl
      | bad used passed =>
          cases passed with
          | none => rfl
          | some fault => exact absurd rfl (passable used fault)
  | @list items gap _ ih =>
      have each : List.Forall₂ (fun _ i => Readable i.value fun found => found.pass = .ok ())
          items items := List.forall₂_same.2 ih
      refine (readable_list each gap).imp ?_
      rintro _ ⟨start, found, stop, rfl, both⟩
      have each : ∀ x ∈ found, x.pass = .ok () := by
        clear * - both
        induction both with
        | nil => simp
        | cons first _ ih => exact List.forall_mem_cons.2 ⟨first, ih⟩
      rw [Found.pass, passItems_eq_ok each]
      rfl
  | @object members gap keys _ ih =>
      have each : List.Forall₂ (fun _ m => m.Reads fun entry => entry.1.IsPassable ∧
          entry.2.pass = .ok ()) members members :=
        List.forall₂_same.2 fun m hm =>
          ⟨_, _, (keys m hm).readsKey, ih m hm, fun _ _ passable pass => ⟨passable, pass⟩⟩
      refine (readable_object each gap).imp ?_
      rintro _ ⟨start, found, stop, rfl, both⟩
      have passable : ∀ m ∈ found, m.1.IsPassable ∧ m.2.pass = .ok () := by
        clear * - both
        induction both with
        | nil => simp
        | cons first _ ih => exact List.forall_mem_cons.2 ⟨first, ih⟩
      rw [Found.pass, passMembers_eq_ok passable]
      rfl

/-! ## Reading any text of a value -/

theorem holdsAll_of_forall₂ {vs : List Json} {found : List Found}
    (h : List.Forall₂ (fun v x => Holds x v) vs found) : HoldsAll found vs := by
  induction h with
  | nil => exact .nil
  | cons first _ ih => exact .cons first ih

theorem holdsMembers_of_forall₂ {vs : List (String × Json)} {found : List (Key × Found)}
    (h : List.Forall₂ (fun v entry => (∃ stop, entry.1 = .name v.1 stop) ∧ Holds entry.2 v.2)
      vs found) : HoldsMembers found vs := by
  induction h with
  | nil => exact .nil
  | @cons v entry vs found first _ ih =>
      obtain ⟨key, x⟩ := entry
      obtain ⟨⟨stop, rfl⟩, holds⟩ := first
      exact .cons holds ih

mutual

/-- Any text of a value whose numbers can be read is read as that value. -/
theorem IsTextOf.readable : ∀ {v : Json} {text : List Char}, IsTextOf v text → Writable v →
    Readable text fun found => Holds found v
  | .null, _, .null, _ =>
      (readable_word .null (by simp)).imp fun _ ⟨_, same⟩ => same ▸ .null
  | .bool true, _, .bool _, _ =>
      (readable_word (.bool true) (by simp)).imp fun _ ⟨_, same⟩ => same ▸ .bool
  | .bool false, _, .bool _, _ =>
      (readable_word (.bool false) (by simp)).imp fun _ ⟨_, same⟩ => same ▸ .bool
  | .int _, _, .int _, h => readable_natural h
  | .float _, _, .float _, ⟨_, h⟩ => readable_double h
  | .str _, _, .str spelled, _ =>
      spelled.readsKey.readable.imp fun _ ⟨_, ⟨_, isName⟩, same⟩ => same ▸ isName ▸ .str
  | .arr _, _, .arr gap each, h =>
      (readable_list (each.readable h) gap).imp fun _ ⟨_, _, _, same, both⟩ =>
        same ▸ .arr (holdsAll_of_forall₂ both)
  | .obj _, _, .obj gap each, h =>
      (readable_object (each.reads h) gap).imp fun _ ⟨_, _, _, same, both⟩ =>
        same ▸ .obj (holdsMembers_of_forall₂ both)

theorem AreTextsOf.readable : ∀ {vs : List Json} {items : List ItemText}, AreTextsOf vs items →
    WritableAll vs →
      List.Forall₂ (fun v i => Readable i.value fun found => Holds found v) vs items
  | [], _, .nil, _ => .nil
  | _ :: _, _, .cons first others, h => .cons (first.readable h.1) (others.readable h.2)

theorem AreMembersOf.reads : ∀ {vs : List (String × Json)} {members : List MemberText},
    AreMembersOf vs members → WritableMembers vs →
      List.Forall₂ (fun v m => m.Reads fun entry =>
        (∃ stop, entry.1 = .name v.1 stop) ∧ Holds entry.2 v.2) vs members
  | [], _, .nil, _ => .nil
  | _ :: _, _, .cons key first others, h =>
      .cons ⟨_, _, key.readsKey, first.readable h.1, fun _ _ isName holds => ⟨isName, holds⟩⟩
        (others.reads h.2)

end

/-! ## What the program writes -/

/-- The line end and the indentation at a depth. -/
def Blanks.lineAt (depth : Nat) : Blanks := ⟨Json.lineAt depth, by
  intro c hc
  obtain rfl | hc := List.mem_cons.1 hc
  · simp
  · simp [List.eq_of_mem_replicate hc]⟩

/-- An item as the program writes it. -/
def ItemText.wide (depth : Nat) (v : Json) : ItemText := ⟨.lineAt depth, v.wide depth, .none⟩

/-- A member as the program writes it. -/
def MemberText.wide (depth : Nat) (m : String × Json) : MemberText where
  before := .lineAt depth
  key := m.1.toList.flatMap escaped
  afterKey := .none
  beforeValue := ⟨[' '], by simp⟩
  value := m.2.wide depth
  after := .none

theorem wideItems_eq (depth : Nat) (vs : List Json) :
    wideItems depth vs = listed ((vs.map (ItemText.wide depth)).map ItemText.text) := by
  induction vs with
  | nil => rfl
  | cons v vs ih =>
      cases vs with
      | nil => simp [wideItems, listed, ItemText.text, ItemText.wide, Blanks.lineAt, Blanks.none]
      | cons w vs =>
          rw [wideItems, ih]
          simp [listed, ItemText.text, ItemText.wide, Blanks.lineAt, Blanks.none]

theorem wideMembers_eq (depth : Nat) (ms : List (String × Json)) :
    wideMembers depth ms = listed ((ms.map (MemberText.wide depth)).map MemberText.text) := by
  induction ms with
  | nil => rfl
  | cons m ms ih =>
      obtain ⟨name, v⟩ := m
      cases ms with
      | nil =>
          simp [wideMembers, listed, MemberText.text, MemberText.wide, Blanks.lineAt, Blanks.none,
            stringText]
      | cons m ms =>
          rw [wideMembers, ih]
          simp [listed, MemberText.text, MemberText.wide, Blanks.lineAt, Blanks.none, stringText]

theorem exists_listText_wide (depth : Nat) (vs : List Json) :
    ∃ gap, (arr vs).wide depth = listText (vs.map (ItemText.wide (depth + 1))) gap := by
  cases vs with
  | nil => exact ⟨.none, rfl⟩
  | cons v vs =>
      refine ⟨.lineAt depth, ?_⟩
      rw [wide, wideItems_eq]
      simp [listText, Blanks.lineAt]

theorem exists_objectText_wide (depth : Nat) (ms : List (String × Json)) :
    ∃ gap, (obj ms).wide depth = objectText (ms.map (MemberText.wide (depth + 1))) gap := by
  cases ms with
  | nil => exact ⟨.none, rfl⟩
  | cons m ms =>
      refine ⟨.lineAt depth, ?_⟩
      rw [wide, wideMembers_eq]
      simp [objectText, Blanks.lineAt]

mutual

/-- What the program writes of a value is a text of it. -/
theorem isTextOf_wide (depth : Nat) : ∀ v : Json, IsTextOf v (v.wide depth)
  | .null => .null
  | .bool b => .bool b
  | .int n => .int n
  | .float x => .float x
  | .str s => .str (spells_flatMap_escaped s.toList)
  | .arr vs =>
      let ⟨gap, same⟩ := exists_listText_wide depth vs
      same ▸ .arr gap (areTextsOf_wide (depth + 1) vs)
  | .obj ms =>
      let ⟨gap, same⟩ := exists_objectText_wide depth ms
      same ▸ .obj gap (areMembersOf_wide (depth + 1) ms)

theorem areTextsOf_wide (depth : Nat) : ∀ vs : List Json,
    AreTextsOf vs (vs.map (ItemText.wide depth))
  | [] => .nil
  | v :: vs => .cons (isTextOf_wide depth v) (areTextsOf_wide depth vs)

theorem areMembersOf_wide (depth : Nat) : ∀ ms : List (String × Json),
    AreMembersOf ms (ms.map (MemberText.wide depth))
  | [] => .nil
  | (name, v) :: ms =>
      .cons (spells_flatMap_escaped name.toList) (isTextOf_wide depth v)
        (areMembersOf_wide depth ms)

end

/-! ## Decoding -/

/-- What a text is read as is decoded where nothing but blanks stands around it. -/
theorem exists_decode {text : List Char} {P : Found → Prop} (h : Readable text P)
    (lead trail : Blanks) (source : String)
    (whole : source.toList = lead.chars ++ (text ++ trail.chars)) {α : Type} (d : Decoder α) :
    ∃ found, P found ∧ decode d source = d found := by
  obtain ⟨c, cs, hc, visible, -⟩ := h.head
  have stops : StopsNumber trail.chars := by
    simpa using trail.stopsNumber (show StopsNumber [] by simp [StopsNumber])
  obtain ⟨q, blank⟩ := readValue_blanks lead (text ++ trail.chars)
    (by simpa [hc] using visible) (4 * source.toList.length + 7) 0
  obtain ⟨found, q', read, holds⟩ := h.read (4 * source.toList.length + 8)
    (by rw [whole]; simp only [List.length_append]; omega) stops q
  obtain ⟨q'', last⟩ : ∃ q'', next ⟨trail.chars, q'⟩ = ⟨[], q''⟩ := by
    simpa using next_append trail [] (by simp) q'
  refine ⟨found, holds, ?_⟩
  have through : Found.read source.toList = (found, .ok ⟨trail.chars, q'⟩) := by
    rw [Found.read, ← read, ← blank, ← whole]
    rfl
  simp only [decode, through]
  cases d found <;> simp [last, bind, Except.bind, pure, Except.pure]

end Mutagenesis.Json
