import Mutagenesis.Model.Sha256
import Mutagenesis.Proofs.Files.Tree
import Mutagenesis.Proofs.Text

/-!
# Digests as names

A digest is sixty-four hexadecimal digits, and so it and its first digits can name files: they hold
no slash, and a text that begins with a digit is no dot.
-/
namespace Mutagenesis

open Files (dot isName slash)

namespace Text

/-- Whether a character is a hexadecimal digit in lower case. -/
def IsHex (c : Char) : Prop := ∃ d < 16, c = digitChar d

namespace IsHex

variable {c : Char} {cs : List Char}

/-- A hexadecimal digit is a single byte, which is neither a slash nor a dot. -/
theorem encoded (h : IsHex c) : (String.utf8EncodeChar c).length = 1 ∧
    slash ∉ String.utf8EncodeChar c ∧ dot ∉ String.utf8EncodeChar c := by
  have all : ∀ d < 16, (String.utf8EncodeChar (digitChar d)).length = 1 ∧
      slash ∉ String.utf8EncodeChar (digitChar d) ∧
        dot ∉ String.utf8EncodeChar (digitChar d) := by decide
  obtain ⟨d, hd, rfl⟩ := h
  exact all d hd

theorem length_bytes (h : ∀ c ∈ cs, IsHex c) : (bytes (String.ofList cs)).length = cs.length := by
  rw [bytes_ofList]
  induction cs with
  | nil => rfl
  | cons c cs ih =>
      rw [List.forall_mem_cons] at h
      rw [List.flatMap_cons, List.length_append, ih h.2, h.1.encoded.1, List.length_cons,
        Nat.add_comm]

theorem notMem_bytes (h : ∀ c ∈ cs, IsHex c) :
    slash ∉ bytes (String.ofList cs) ∧ dot ∉ bytes (String.ofList cs) := by
  rw [bytes_ofList]
  refine ⟨?_, ?_⟩ <;> intro hmem <;> obtain ⟨c, hc, hmem⟩ := List.mem_flatMap.1 hmem
  · exact (h c hc).encoded.2.1 hmem
  · exact (h c hc).encoded.2.2 hmem

/-- What begins with hexadecimal digits is a name, as long as no slash follows. -/
theorem isName_append (h : ∀ c ∈ cs, IsHex c) (nonempty : cs ≠ []) {more : Bytes}
    (noSlash : slash ∉ more) : isName (bytes (String.ofList cs) ++ more) = true := by
  obtain ⟨noSlash', noDot⟩ := notMem_bytes h
  have length := length_bytes h
  obtain ⟨b, bs, hbytes⟩ : ∃ b bs, bytes (String.ofList cs) = b :: bs :=
    List.exists_cons_of_length_pos (length ▸ List.length_pos_iff.2 nonempty)
  rw [hbytes] at noSlash' noDot ⊢
  have first : b ≠ dot := by
    rintro rfl
    exact noDot List.mem_cons_self
  refine Files.isName_iff.2 ⟨⟨?_, ?_⟩, ?_⟩
  · simp [Files.isIdle, first]
  · simp [Files.isUp, first]
  · exact fun hmem => (List.mem_append.1 hmem).elim noSlash' noSlash

end IsHex

end Text

namespace Sha256

/-! ## The digits of a digest -/

theorem isHex_of_mem_hexByte {b : UInt8} {c : Char} (h : c ∈ hexByte b) : Text.IsHex c := by
  have small := b.toNat_lt
  simp only [hexByte, List.mem_cons, List.not_mem_nil, or_false] at h
  obtain rfl | rfl := h
  · exact ⟨b.toNat / 16, by omega, rfl⟩
  · exact ⟨b.toNat % 16, by omega, rfl⟩

theorem length_compress {state : List UInt32} (block : List UInt32) (h : state.length = 8) :
    (compress state block).length = 8 := by
  simp [compress, State.toWords, h]

theorem length_compressAll {state : List UInt32} (n : Nat) (ws : List UInt32)
    (h : state.length = 8) : (compressAll n state ws).length = 8 := by
  induction n generalizing state ws with
  | zero => exact h
  | succ n ih =>
      rw [compressAll]
      split
      · exact h
      · exact ih _ (length_compress _ h)

theorem length_digits (state : List UInt32) :
    ((state.flatMap fun w => bigEndian 4 w.toNat).flatMap hexByte).length = 8 * state.length := by
  induction state with
  | nil => rfl
  | cons w state ih =>
      have word : ((bigEndian 4 w.toNat).flatMap hexByte).length = 8 := rfl
      rw [List.flatMap_cons, List.flatMap_append, List.length_append, ih, word, List.length_cons]
      omega

theorem isHex_of_mem_digest {message : Bytes} {c : Char} (h : c ∈ (digest message).toList) :
    Text.IsHex c := by
  simp only [digest, String.toList_ofList] at h
  obtain ⟨b, -, hc⟩ := List.mem_flatMap.1 h
  exact isHex_of_mem_hexByte hc

theorem length_digest (message : Bytes) : (digest message).toList.length = 64 := by
  have words : initial.length = 8 := rfl
  simp only [digest, String.toList_ofList, length_digits, length_compressAll _ _ words]

end Sha256

end Mutagenesis
