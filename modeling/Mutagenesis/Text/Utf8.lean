/-!
# Bytes of a text

File names and file contents are bytes. `bytes` is the UTF-8 form of a text, `ofBytes?` reads bytes
that are one, and `ofBytesLossy` reads any bytes, with a replacement character for each longest
piece that begins a character and does not complete it.
-/
namespace Mutagenesis

/-- A name or the content of a file. -/
abbrev Bytes := List UInt8

namespace Text

/-- The UTF-8 form of a text. -/
def bytes (s : String) : Bytes := s.toUTF8.data.toList

/-- The text whose UTF-8 form the bytes are, if they are one. -/
def ofBytes? (bs : Bytes) : Option String := String.fromUTF8? ⟨bs.toArray⟩

/-- A text reads back from its own bytes. -/
@[simp] theorem ofBytes?_bytes (s : String) : ofBytes? (bytes s) = some s := by
  have valid : s.toUTF8.IsValidUTF8 := s.isValidUTF8
  have same : (⟨(bytes s).toArray⟩ : ByteArray) = s.toUTF8 := by simp [bytes]
  simp only [ofBytes?, same, String.fromUTF8?, String.fromUTF8]
  rw [dif_pos valid]
  rfl

/-- Texts with the same bytes are the same. -/
theorem bytes_injective {s t : String} (h : bytes s = bytes t) : s = t := by
  have := congrArg ofBytes? h
  simpa using this

/-- The ranges of the bytes that may follow the first byte of a character. -/
def following (first : UInt8) : List (UInt8 × UInt8) :=
  let any := ((0x80 : UInt8), (0xBF : UInt8))
  if 0xC2 ≤ first && first ≤ 0xDF then [any]
  else if first = 0xE0 then [(0xA0, 0xBF), any]
  else if first = 0xED then [(0x80, 0x9F), any]
  else if 0xE1 ≤ first && first ≤ 0xEF then [any, any]
  else if first = 0xF0 then [(0x90, 0xBF), any, any]
  else if 0xF1 ≤ first && first ≤ 0xF3 then [any, any, any]
  else if first = 0xF4 then [(0x80, 0x8F), any, any]
  else []

/-- How many of the bytes lie in the ranges, one for each, up to the first that does not. -/
def matching : List (UInt8 × UInt8) → Bytes → Nat
  | (low, high) :: ranges, b :: bs =>
      if low ≤ b && b ≤ high then 1 + matching ranges bs else 0
  | _, _ => 0

/-- The character at the head of bytes, or the replacement character, and the bytes it takes
beyond the first. -/
def headChar (first : UInt8) (rest : Bytes) : Char × Nat :=
  if first < 0x80 then (Char.ofNat first.toNat, 0)
  else
    let ranges := following first
    let n := matching ranges rest
    if ranges.isEmpty || n < ranges.length then ('\uFFFD', n)
    else
      let lead := match n with
        | 1 => first.toNat % 0x20
        | 2 => first.toNat % 0x10
        | _ => first.toNat % 0x08
      (Char.ofNat ((rest.take n).foldl (fun code b => code * 64 + b.toNat % 64) lead), n)

/-- The characters of bytes; the first number bounds them. -/
def charsLossy : Nat → Bytes → List Char
  | 0, _ => []
  | _, [] => []
  | n + 1, b :: bs =>
      let (c, more) := headChar b bs
      c :: charsLossy n (bs.drop more)

/-- The text of any bytes. -/
def ofBytesLossy (bs : Bytes) : String := String.ofList (charsLossy bs.length bs)

end Text

end Mutagenesis
