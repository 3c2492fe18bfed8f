import Mutagenesis.Text.Characters

/-!
# Fenced blocks

A completion gives its proposals in fenced blocks: three backticks with an optional tag and blanks
up to the end of their line, the fragment, and three backticks again, before which one line end does
not belong to the fragment. Blocks are found from the left and do not overlap; an opening fence
without a closing one is no block.
-/
namespace Mutagenesis

open Text (dropPrefix?)

/-- What a fence is made of. -/
def fence : List Char := ['\x60', '\x60', '\x60']

/-- The characters of a tag after an opening fence. -/
def isTagChar (c : Char) : Bool := c.isAlphanum || c = '_' || c = '+' || c = '-'

/-- The text after a line end. -/
def afterLineEnd? : List Char → Option (List Char)
  | '\n' :: cs => some cs
  | '\r' :: '\n' :: cs => some cs
  | _ => none

/-- The text after an opening fence and its line. -/
def afterOpening? (cs : List Char) : Option (List Char) :=
  (dropPrefix? fence cs).bind fun rest =>
    afterLineEnd? ((rest.dropWhile isTagChar).dropWhile fun c => c = ' ' || c = '\t')

/-- The text without a carriage return or a line feed at its head, or both in this order. -/
def dropLineEnd : List Char → List Char
  | '\r' :: '\n' :: cs => cs
  | '\r' :: cs => cs
  | '\n' :: cs => cs
  | cs => cs

/-- The text after a closing fence and the line end before it. -/
def afterClosing? (cs : List Char) : Option (List Char) := dropPrefix? fence (dropLineEnd cs)

/-- The fragment up to the first closing fence, and the text after the fence. -/
def fragmentBefore? : List Char → Option (List Char × List Char)
  | [] => none
  | c :: cs =>
      match afterClosing? (c :: cs) with
      | some rest => some ([], rest)
      | none => (fragmentBefore? cs).map fun (fragment, rest) => (c :: fragment, rest)

/-- The fragment of a block that begins here, and the text after the block. -/
def block? (cs : List Char) : Option (List Char × List Char) :=
  (afterOpening? cs).bind fragmentBefore?

theorem length_of_dropPrefix? {mark cs rest : List Char} (h : dropPrefix? mark cs = some rest) :
    rest.length + mark.length = cs.length := by
  rw [Text.dropPrefix?_eq_some_iff] at h
  simp [h, Nat.add_comm]

theorem length_dropLineEnd (cs : List Char) : (dropLineEnd cs).length ≤ cs.length := by
  unfold dropLineEnd
  split
  next => simp; omega
  all_goals simp

theorem length_of_afterClosing? {cs rest : List Char} (h : afterClosing? cs = some rest) :
    rest.length + 3 ≤ cs.length := by
  have h1 := length_of_dropPrefix? h
  have h2 := length_dropLineEnd cs
  simp only [fence, List.length_cons, List.length_nil] at h1
  omega

theorem length_of_fragmentBefore? {cs fragment rest : List Char}
    (h : fragmentBefore? cs = some (fragment, rest)) : rest.length < cs.length := by
  induction cs generalizing fragment rest with
  | nil => simp [fragmentBefore?] at h
  | cons c cs ih =>
      simp only [fragmentBefore?] at h
      split at h
      · rename_i r hr
        simp only [Option.some.injEq, Prod.mk.injEq] at h
        have := length_of_afterClosing? hr
        rw [h.2] at this
        omega
      · obtain ⟨⟨f, r⟩, hf, heq⟩ := Option.map_eq_some_iff.1 h
        simp only [Prod.mk.injEq] at heq
        have := ih hf
        rw [heq.2] at this
        simp only [List.length_cons]
        omega

theorem length_of_afterLineEnd? {cs rest : List Char} (h : afterLineEnd? cs = some rest) :
    rest.length < cs.length := by
  unfold afterLineEnd? at h
  split at h <;> simp only [Option.some.injEq, reduceCtorEq] at h <;> subst h <;>
    simp only [List.length_cons] <;> omega

theorem length_of_block? {cs fragment rest : List Char} (h : block? cs = some (fragment, rest)) :
    rest.length < cs.length := by
  obtain ⟨body, hbody, hfragment⟩ := Option.bind_eq_some_iff.1 h
  obtain ⟨line, hline, hend⟩ := Option.bind_eq_some_iff.1 hbody
  have h1 := length_of_fragmentBefore? hfragment
  have h2 := length_of_afterLineEnd? hend
  have h3 := length_of_dropPrefix? hline
  have h4 := (List.dropWhile_sublist (l := line) isTagChar).length_le
  have h5 := (List.dropWhile_sublist (l := line.dropWhile isTagChar)
    fun c : Char => c = ' ' || c = '\t').length_le
  omega

/-- The fragments of the blocks of a text, in order. -/
def blocks (cs : List Char) : List (List Char) :=
  match cs with
  | [] => []
  | c :: rest =>
      match _h : block? (c :: rest) with
      | some (fragment, after) => fragment :: blocks after
      | none => blocks rest
termination_by cs.length
decreasing_by
  · exact length_of_block? _h
  · simp

/-- The fragments that a completion proposes, or `none` when it has no block. -/
def extractFragments (completion : String) : Option (List String) :=
  match blocks completion.toList with
  | [] => none
  | fragments => some (fragments.map String.ofList)

end Mutagenesis
