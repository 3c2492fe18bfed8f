import Mathlib.Data.List.Infix
import Mutagenesis.Mutant.Fence

/-!
# Fragments written into blocks

Fragments that are written into fenced blocks, with any prose before, between and after the blocks,
are found again as they are. Prose holds no fence, and a backtick before an opening fence only makes
the search begin its block one character later. The first closing fence is the one after the
fragment, since the fragment holds none and a line end stands between the two.
-/
namespace Mutagenesis

/-- How a line ends. -/
inductive LineEnd where
  | lf
  | crlf
  deriving DecidableEq

def LineEnd.chars : LineEnd → List Char
  | lf => ['\n']
  | crlf => ['\r', '\n']

/-- A fragment written into a block, and the prose before the block. -/
structure Fenced where
  prose : List Char
  tag : List Char
  blanks : List Char
  opening : LineEnd
  fragment : List Char
  closing : LineEnd
  prose_noFence : ¬ fence <:+: prose := by decide
  isTag : ∀ c ∈ tag, c.isAlphanum = true ∨ c = '_' ∨ c = '+' ∨ c = '-' := by simp
  isBlank : ∀ c ∈ blanks, c = ' ' ∨ c = '\t' := by simp
  fragment_noFence : ¬ fence <:+: fragment := by decide
  /-- A line feed alone would take the carriage return before it into the line end. -/
  ended : closing = .lf → fragment.getLast? ≠ some '\r' := by decide

namespace Fenced

def openingLine (f : Fenced) : List Char := fence ++ f.tag ++ f.blanks ++ f.opening.chars

/-- The prose and the block. -/
def text (f : Fenced) : List Char :=
  f.prose ++ f.openingLine ++ f.fragment ++ f.closing.chars ++ fence

end Fenced

/-! ## Prose -/

theorem blocks_of_block? {cs fragment after : List Char} (h : block? cs = some (fragment, after)) :
    blocks cs = fragment :: blocks after := by
  cases cs with
  | nil => simp [block?, afterOpening?, Text.dropPrefix?, fence] at h
  | cons c cs =>
      rw [blocks]
      split
      next _ _ found =>
        obtain ⟨rfl, rfl⟩ := Prod.mk.inj (Option.some.inj (found.symm.trans h))
        rfl
      next missing => simp [h] at missing

theorem blocks_cons_of_none {c : Char} {cs : List Char} (h : block? (c :: cs) = none) :
    blocks (c :: cs) = blocks cs := by
  rw [blocks]
  split
  next _ _ found => simp [h] at found
  next => rfl

/-- A block begins with a fence that no fourth backtick follows. -/
theorem begins_of_block? {cs fragment after : List Char} (h : block? cs = some (fragment, after)) :
    ∃ line, cs = fence ++ line ∧ line.head? ≠ some '\x60' := by
  obtain ⟨body, hbody, -⟩ := Option.bind_eq_some_iff.1 h
  obtain ⟨line, hline, hend⟩ := Option.bind_eq_some_iff.1 hbody
  refine ⟨line, Text.dropPrefix?_eq_some_iff.1 hline, fun fourth => ?_⟩
  obtain ⟨rest, rfl⟩ := List.head?_eq_some_iff.1 fourth
  simp [isTagChar, afterLineEnd?] at hend

/-- No block begins in prose that is followed by nothing, or by a fence. -/
theorem block?_of_noFence {prose rest : List Char} (noFence : ¬ fence <:+: prose)
    (nonempty : prose ≠ []) (hrest : rest = [] ∨ fence <+: rest) :
    block? (prose ++ rest) = none := by
  rw [Option.eq_none_iff_forall_ne_some]
  rintro ⟨fragment, after⟩ found
  obtain ⟨line, heq, single⟩ := begins_of_block? found
  match prose, nonempty with
  | [_], _ =>
      obtain rfl | ⟨more, rfl⟩ := hrest
      · simp [fence] at heq
      · simp only [fence, List.cons_append, List.cons.injEq, List.nil_append] at heq
        obtain ⟨-, -, -, rfl⟩ := heq
        exact single rfl
  | [_, _], _ =>
      obtain rfl | ⟨more, rfl⟩ := hrest
      · simp [fence] at heq
      · simp only [fence, List.cons_append, List.cons.injEq, List.nil_append] at heq
        obtain ⟨-, -, -, rfl⟩ := heq
        exact single rfl
  | a :: b :: c :: prose, _ =>
      simp only [fence, List.cons_append, List.cons.injEq, List.nil_append] at heq
      obtain ⟨rfl, rfl, rfl, -⟩ := heq
      exact noFence (List.prefix_append fence prose).isInfix

/-- Prose is passed over. -/
theorem blocks_append {prose rest : List Char} (noFence : ¬ fence <:+: prose)
    (hrest : rest = [] ∨ fence <+: rest) : blocks (prose ++ rest) = blocks rest := by
  induction prose with
  | nil => rfl
  | cons c prose ih =>
      have fewer : ¬ fence <:+: prose :=
        fun h => noFence (h.trans (List.suffix_cons c prose).isInfix)
      have none := block?_of_noFence noFence (List.cons_ne_nil c prose) hrest
      rw [List.cons_append] at none ⊢
      rw [blocks_cons_of_none none, ih fewer]

/-! ## Blocks -/

theorem isTagChar_eq_true_iff (c : Char) :
    isTagChar c = true ↔ c.isAlphanum = true ∨ c = '_' ∨ c = '+' ∨ c = '-' := by
  simp [isTagChar, or_assoc]

/-- A text without a fence that a line end follows does not begin with a fence. -/
theorem dropPrefix?_of_noFence {cs : List Char} (noFence : ¬ fence <:+: cs) (stop : LineEnd)
    (rest : List Char) : Text.dropPrefix? fence (cs ++ (stop.chars ++ rest)) = none := by
  rw [Option.eq_none_iff_forall_ne_some]
  intro more found
  rw [Text.dropPrefix?_eq_some_iff] at found
  match cs with
  | [] => cases stop <;> simp [fence, LineEnd.chars] at found
  | [_] => cases stop <;> simp [fence, LineEnd.chars] at found
  | [_, _] => cases stop <;> simp [fence, LineEnd.chars] at found
  | a :: b :: c :: cs =>
      simp only [fence, List.cons_append, List.cons.injEq, List.nil_append] at found
      obtain ⟨rfl, rfl, rfl, -⟩ := found
      exact noFence (List.prefix_append fence cs).isInfix

/-- A line end that is taken from the head of a fragment is taken from the fragment alone. -/
theorem dropLineEnd_append {c : Char} {cs : List Char} {stop : LineEnd}
    (ended : stop = .lf → (c :: cs).getLast? ≠ some '\r') (rest : List Char) :
    ∃ left, left <:+ c :: cs ∧
      dropLineEnd (c :: cs ++ (stop.chars ++ rest)) = left ++ (stop.chars ++ rest) := by
  unfold dropLineEnd
  split
  next more both =>
    simp only [List.cons_append, List.cons.injEq] at both
    obtain ⟨rfl, both⟩ := both
    cases cs with
    | nil =>
        cases stop with
        | lf => exact absurd rfl (ended rfl)
        | crlf => simp [LineEnd.chars] at both
    | cons d ds =>
        simp only [List.cons_append, List.cons.injEq] at both
        obtain ⟨rfl, rfl⟩ := both
        exact ⟨ds, (List.suffix_cons _ ds).trans (List.suffix_cons _ _), rfl⟩
  next more _ heq =>
    obtain ⟨rfl, rfl⟩ := List.cons.inj heq
    exact ⟨cs, List.suffix_cons _ cs, rfl⟩
  next more heq =>
    obtain ⟨rfl, rfl⟩ := List.cons.inj heq
    exact ⟨cs, List.suffix_cons _ cs, rfl⟩
  next => exact ⟨c :: cs, List.suffix_rfl, rfl⟩

theorem fragmentBefore?_of_closing {cs rest : List Char} (h : afterClosing? cs = some rest) :
    fragmentBefore? cs = some ([], rest) := by
  cases cs with
  | nil => simp [afterClosing?, dropLineEnd, fence, Text.dropPrefix?] at h
  | cons c cs => rw [fragmentBefore?, h]

/-- A fragment is read up to the line end and the fence after it. -/
theorem fragmentBefore?_append {fragment : List Char} {stop : LineEnd}
    (noFence : ¬ fence <:+: fragment) (ended : stop = .lf → fragment.getLast? ≠ some '\r')
    (rest : List Char) :
    fragmentBefore? (fragment ++ (stop.chars ++ (fence ++ rest))) = some (fragment, rest) := by
  induction fragment with
  | nil =>
      apply fragmentBefore?_of_closing
      cases stop <;> exact Text.dropPrefix?_eq_some_iff.2 rfl
  | cons c cs ih =>
      obtain ⟨left, hleft, hdrop⟩ := dropLineEnd_append ended (fence ++ rest)
      have unclosed : afterClosing? (c :: cs ++ (stop.chars ++ (fence ++ rest))) = none := by
        rw [afterClosing?, hdrop]
        exact dropPrefix?_of_noFence (fun h => noFence (h.trans hleft.isInfix)) stop (fence ++ rest)
      have fewer : ¬ fence <:+: cs := fun h => noFence (h.trans (List.suffix_cons c cs).isInfix)
      have ended' : stop = .lf → cs.getLast? ≠ some '\r' := by
        intro lf last
        obtain ⟨d, ds, rfl⟩ := List.exists_cons_of_ne_nil (l := cs) (by rintro rfl; simp at last)
        exact ended lf (List.getLast?_cons_cons.trans last)
      rw [List.cons_append] at unclosed ⊢
      rw [fragmentBefore?, unclosed, ih fewer ended']
      rfl

namespace Fenced

/-- The opening line of a block is passed whole. -/
theorem afterOpening?_append (f : Fenced) (rest : List Char) :
    afterOpening? (f.openingLine ++ rest) = some rest := by
  have line : Text.dropPrefix? fence (f.openingLine ++ rest) =
      some (f.tag ++ (f.blanks ++ (f.opening.chars ++ rest))) := by
    rw [Text.dropPrefix?_eq_some_iff, openingLine]
    simp only [List.append_assoc]
  have tag : (f.tag ++ (f.blanks ++ (f.opening.chars ++ rest))).dropWhile isTagChar =
      f.blanks ++ (f.opening.chars ++ rest) := by
    rw [List.dropWhile_append_of_pos fun c hc => (isTagChar_eq_true_iff c).2 (f.isTag c hc)]
    cases hblanks : f.blanks with
    | nil => cases f.opening <;> simp [LineEnd.chars, isTagChar]
    | cons b bs =>
        obtain rfl | rfl := f.isBlank b (by simp [hblanks]) <;> simp [isTagChar]
  have blanks : (f.blanks ++ (f.opening.chars ++ rest)).dropWhile (fun c => c = ' ' || c = '\t') =
      f.opening.chars ++ rest := by
    rw [List.dropWhile_append_of_pos fun c hc => by simpa using f.isBlank c hc]
    cases f.opening <;> simp [LineEnd.chars]
  rw [afterOpening?, line, Option.bind_some, tag, blanks]
  cases f.opening <;> rfl

/-- Prose and block are passed, and the fragment is kept. -/
theorem blocks_text_append (f : Fenced) (rest : List Char) :
    blocks (f.text ++ rest) = f.fragment :: blocks rest := by
  have block : block? (f.openingLine ++ (f.fragment ++ (f.closing.chars ++ (fence ++ rest)))) =
      some (f.fragment, rest) := by
    rw [block?, afterOpening?_append, Option.bind_some,
      fragmentBefore?_append f.fragment_noFence f.ended]
  have begins :
      fence <+: f.openingLine ++ (f.fragment ++ (f.closing.chars ++ (fence ++ rest))) := by
    simp only [openingLine, List.append_assoc]
    exact List.prefix_append _ _
  simp only [text, List.append_assoc]
  rw [blocks_append f.prose_noFence (.inr begins), blocks_of_block? block]

theorem blocks_texts_append (fs : List Fenced) {last : List Char} (noFence : ¬ fence <:+: last) :
    blocks (fs.flatMap text ++ last) = fs.map (·.fragment) := by
  induction fs with
  | nil =>
      have none := blocks_append noFence (.inl rfl)
      rw [List.append_nil] at none
      rw [List.flatMap_nil, List.nil_append, none, blocks]
      rfl
  | cons f fs ih =>
      rw [List.flatMap_cons, List.append_assoc, blocks_text_append, ih, List.map_cons]

end Fenced

/-- Fragments that are written into blocks are extracted again, all of them and in order, whatever
prose stands before, between and after the blocks. -/
theorem extractFragments_fenced {fs : List Fenced} (nonempty : fs ≠ []) {last : List Char}
    (noFence : ¬ fence <:+: last) :
    extractFragments (String.ofList (fs.flatMap Fenced.text ++ last)) =
      some (fs.map fun f => String.ofList f.fragment) := by
  have found := Fenced.blocks_texts_append fs noFence
  rw [extractFragments, String.toList_ofList, found]
  obtain ⟨f, more, rfl⟩ := List.exists_cons_of_ne_nil nonempty
  simp

/-- Three blocks, the second right after the first and empty, with backticks at the edges of prose
and fragment, line feeds at the end of the first fragment and a carriage return at that of the
last. -/
theorem extractFragments_fenced_three :
    let fs : List Fenced := [
      { prose := "Try \x60\x60".toList, tag := "js".toList, blanks := " \t".toList,
        opening := .crlf, fragment := "a\n\x60b\x60\x60\n\n".toList, closing := .lf },
      { prose := [], tag := [], blanks := [], opening := .lf, fragment := [], closing := .crlf },
      { prose := "\x60 or".toList, tag := "c++".toList, blanks := [], opening := .lf,
        fragment := "x\r".toList, closing := .crlf }]
    let completion := "Try \x60\x60\x60\x60\x60js \t\r\na\n\x60b\x60\x60\n\n\n\x60\x60\x60" ++
      "\x60\x60\x60\n\r\n\x60\x60\x60\x60 or\x60\x60\x60c++\nx\r\r\n\x60\x60\x60\x60\x60"
    fs ≠ [] ∧ ¬ fence <:+: "\x60\x60".toList ∧
      completion = String.ofList (fs.flatMap Fenced.text ++ "\x60\x60".toList) ∧
      extractFragments completion = some ["a\n\x60b\x60\x60\n\n", "", "x\r"] := by
  intro fs completion
  have nonempty : fs ≠ [] := List.cons_ne_nil _ _
  have noFence : ¬ fence <:+: "\x60\x60".toList := by decide
  have same : completion = String.ofList (fs.flatMap Fenced.text ++ "\x60\x60".toList) := by
    decide +kernel
  have found := extractFragments_fenced nonempty noFence
  rw [← same] at found
  exact ⟨nonempty, noFence, same, found⟩

end Mutagenesis
