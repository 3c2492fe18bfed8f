/-!
# Characters and bytes

A text is worked on as its list of characters, while every column and offset that the program
reports counts the bytes of its UTF-8 form. `byteSize` is that count, `cut` splits a text after
a number of bytes and refuses to split a character, and `positionAfter` is the line and the column
behind a text. Readers go through a text by places: what is left of it, and the bytes before. `trim`
takes the white space of the Unicode property `White_Space` from both ends, and `lexicalLe` orders
lists by their first items that differ.
-/
namespace Mutagenesis.Text

/-- The number of bytes that the characters take in UTF-8. -/
def byteSize : List Char → Nat
  | [] => 0
  | c :: cs => c.utf8Size + byteSize cs

@[simp] theorem byteSize_nil : byteSize [] = 0 := rfl

@[simp] theorem byteSize_cons (c : Char) (cs : List Char) :
    byteSize (c :: cs) = c.utf8Size + byteSize cs := rfl

@[simp] theorem byteSize_append (xs ys : List Char) :
    byteSize (xs ++ ys) = byteSize xs + byteSize ys := by
  induction xs with
  | nil => simp
  | cons c cs ih => simp [ih, Nat.add_assoc]

/-- The text before and after the first `n` bytes; `none` when the text is shorter or the cut
would fall inside a character. -/
def cut : Nat → List Char → Option (List Char × List Char)
  | 0, cs => some ([], cs)
  | _ + 1, [] => none
  | n + 1, c :: cs =>
      if c.utf8Size ≤ n + 1 then
        (cut (n + 1 - c.utf8Size) cs).map fun parts => (c :: parts.1, parts.2)
      else
        none

/-- A cut loses nothing, and its first part has the size that was asked for. -/
theorem cut_eq_some {n : Nat} {cs before after : List Char}
    (h : cut n cs = some (before, after)) : cs = before ++ after ∧ byteSize before = n := by
  induction cs generalizing n before with
  | nil =>
      cases n with
      | zero => simp only [cut, Option.some.injEq, Prod.mk.injEq] at h; simp [← h.1, ← h.2]
      | succ n => simp [cut] at h
  | cons c cs ih =>
      cases n with
      | zero => simp only [cut, Option.some.injEq, Prod.mk.injEq] at h; simp [← h.1, ← h.2]
      | succ n =>
          simp only [cut] at h
          split at h
          next le =>
            obtain ⟨⟨b, a⟩, hcut, heq⟩ := Option.map_eq_some_iff.1 h
            obtain ⟨rfl, rfl⟩ := Prod.mk.injEq .. ▸ heq
            obtain ⟨rfl, hb⟩ := ih hcut
            exact ⟨rfl, by simp only [byteSize_cons, hb]; omega⟩
          next => simp at h

/-- What follows `mark` in a text that starts with it. -/
def dropPrefix? : List Char → List Char → Option (List Char)
  | [], cs => some cs
  | _ :: _, [] => none
  | p :: ps, c :: cs => if p = c then dropPrefix? ps cs else none

theorem dropPrefix?_eq_some_iff {mark cs rest : List Char} :
    dropPrefix? mark cs = some rest ↔ cs = mark ++ rest := by
  induction mark generalizing cs with
  | nil => simp [dropPrefix?]
  | cons p ps ih =>
      cases cs with
      | nil => simp [dropPrefix?]
      | cons c cs =>
          by_cases h : p = c
          · simp [dropPrefix?, h, ih]
          · simp [dropPrefix?, h, Ne.symm h]

/-- Whether `needle` stands somewhere in the text. -/
def occurs (needle : List Char) : List Char → Bool
  | [] => needle.isEmpty
  | c :: cs => (dropPrefix? needle (c :: cs)).isSome || occurs needle cs

/-- Every occurrence of `old`, taken left to right without overlap, replaced by `new`.
The number counts the characters of an occurrence that are still to be passed over. -/
def replaceFrom (old new : List Char) : Nat → List Char → List Char
  | _, [] => []
  | k + 1, _ :: cs => replaceFrom old new k cs
  | 0, c :: cs =>
      if (dropPrefix? old (c :: cs)).isSome then
        new ++ replaceFrom old new (old.length - 1) cs
      else
        c :: replaceFrom old new 0 cs

/-- Every occurrence of the non-empty text `old`, taken left to right without overlap,
replaced by `new`. -/
def replace (old new text : List Char) : List Char :=
  replaceFrom old new 0 text

/-- The pieces between the separators; there is always one more piece than separators. -/
def splitOn (sep : Char) : List Char → List (List Char)
  | [] => [[]]
  | c :: cs =>
      if c = sep then [] :: splitOn sep cs
      else match splitOn sep cs with
        | [] => [[c]]
        | piece :: pieces => (c :: piece) :: pieces

theorem splitOn_ne_nil (sep : Char) (cs : List Char) : splitOn sep cs ≠ [] := by
  cases cs with
  | nil => simp [splitOn]
  | cons c cs =>
      simp only [splitOn]
      split
      next => simp
      next => split <;> simp

/-- The pieces joined again, with the separator between each two. -/
def joinWith (sep : List Char) : List (List Char) → List Char
  | [] => []
  | [piece] => piece
  | piece :: pieces => piece ++ sep ++ joinWith sep pieces

/-- The lines of a text without their ends; a line feed ends a line, with the carriage return
before it, and a text that ends in one has no further line. -/
def lines (cs : List Char) : List (List Char) :=
  let pieces := splitOn '\n' cs
  let ended := pieces.dropLast.map fun line =>
    if line.getLast? = some '\r' then line.dropLast else line
  match pieces.getLast? with
  | none | some [] => ended
  | some last => ended ++ [last]

/-- Line and column of the end of `before`: lines count from one, columns count the bytes since
the last line feed. -/
def positionAfter (before : List Char) : Nat × Nat :=
  before.foldl
    (fun place c => if c = '\n' then (place.1 + 1, 0) else (place.1, place.2 + c.utf8Size)) (1, 0)

/-- The characters with the Unicode property `White_Space`. -/
def isBlank (c : Char) : Bool :=
  let n := c.toNat
  (9 ≤ n && n ≤ 13) || n == 0x20 || n == 0x85 || n == 0xA0 || n == 0x1680 ||
    (0x2000 ≤ n && n ≤ 0x200A) || n == 0x2028 || n == 0x2029 || n == 0x202F || n == 0x205F ||
    n == 0x3000

/-- The text without the blanks at its start. -/
def trimStart (cs : List Char) : List Char := cs.dropWhile isBlank

/-- The text without the blanks at its end. -/
def trimEnd (cs : List Char) : List Char := (cs.reverse.dropWhile isBlank).reverse

/-- The text without the blanks at either end. -/
def trim (cs : List Char) : List Char := trimEnd (trimStart cs)

/-- `trim` on strings. -/
def trimmed (s : String) : String := String.ofList (trim s.toList)

/-- A place in a text. -/
structure Place where
  rest : List Char
  offset : Nat

namespace Place

/-- The place at the head of a text. -/
def head (cs : List Char) : Place := ⟨cs, 0⟩

/-- The place after the next `n` characters. -/
def advance (p : Place) (n : Nat) : Place where
  rest := p.rest.drop n
  offset := p.offset + byteSize (p.rest.take n)

/-- The place after the characters of the class that stand here. -/
def passWhile (p : Place) (q : Char → Bool) : Place := p.advance (p.rest.takeWhile q).length

end Place

end Mutagenesis.Text

namespace Mutagenesis

/-- Whether a list comes before another one or equals it, for an order of the items. -/
def lexicalLe {α : Type} [DecidableEq α] (le : α → α → Bool) : List α → List α → Bool
  | [], _ => true
  | _ :: _, [] => false
  | a :: as, b :: bs => if a = b then lexicalLe le as bs else le a b

end Mutagenesis
