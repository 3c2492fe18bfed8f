import Mathlib.Data.List.Infix
import Mathlib.Data.List.TakeWhile
import Mutagenesis.Proofs.Mutant.Fence

/-!
# Blocks of any text

What extraction finds in a text that holds fences in any order, closed or not. A block begins where
an opening line stands and a fence comes somewhere after it; extraction takes the first one, goes on
behind it and leaves no block out. Text that is added at the end can begin a block only behind all
blocks that are there: an opening line holds no fourth backtick, so what follows an opening line
that a later text completes or closes had no block in it. Hence a text that was cut off gives the
first of the fragments of the whole text.
-/
namespace Mutagenesis

/-- The line that opens a block. -/
structure Opening where
  tag : List Char
  blanks : List Char
  ending : LineEnd
  isTag : ∀ c ∈ tag, c.isAlphanum = true ∨ c = '_' ∨ c = '+' ∨ c = '-' := by simp
  isBlank : ∀ c ∈ blanks, c = ' ' ∨ c = '\t' := by simp

def Opening.chars (o : Opening) : List Char := fence ++ o.tag ++ o.blanks ++ o.ending.chars

/-- Whether the text begins with an opening line and holds a fence after it. -/
def BeginsBlock (cs : List Char) : Prop :=
  ∃ (o : Opening) (rest : List Char), cs = o.chars ++ rest ∧ fence <:+: rest

/-- Whether an opening line with a fence after it stands somewhere in the text. -/
def HasBlock (cs : List Char) : Prop := ∃ before after, cs = before ++ after ∧ BeginsBlock after

/-- What may stand between a fragment and the fence after it. -/
def closings : List (List Char) := [[], ['\r'], ['\n'], ['\r', '\n']]

/-- A block as it stands in a text, and what stands between it and the block before. -/
structure Block where
  prose : List Char
  opening : Opening
  fragment : List Char
  closing : List Char
  closes : closing ∈ closings

def Block.text (b : Block) : List Char :=
  b.prose ++ (b.opening.chars ++ (b.fragment ++ (b.closing ++ fence)))

/-! ## Openings -/

theorem afterLineEnd?_eq_some {cs rest : List Char} (h : afterLineEnd? cs = some rest) :
    ∃ ending : LineEnd, cs = ending.chars ++ rest := by
  unfold afterLineEnd? at h
  split at h
  next => exact ⟨.lf, by simpa [LineEnd.chars] using h⟩
  next => exact ⟨.crlf, by simpa [LineEnd.chars] using h⟩
  next => simp at h

theorem afterOpening?_eq_some_iff {cs rest : List Char} :
    afterOpening? cs = some rest ↔ ∃ o : Opening, cs = o.chars ++ rest := by
  constructor
  · intro h
    obtain ⟨line, hline, hend⟩ := Option.bind_eq_some_iff.1 h
    obtain rfl := Text.dropPrefix?_eq_some_iff.1 hline
    obtain ⟨ending, hending⟩ := afterLineEnd?_eq_some hend
    refine ⟨{ tag := line.takeWhile isTagChar
              blanks := (line.dropWhile isTagChar).takeWhile fun c => c = ' ' || c = '\t'
              ending := ending
              isTag := fun c hc => (isTagChar_eq_true_iff c).1 (List.mem_takeWhile_imp hc)
              isBlank := fun c hc => by simpa using List.mem_takeWhile_imp hc }, ?_⟩
    simp only [Opening.chars, List.append_assoc, ← hending, List.takeWhile_append_dropWhile]
  · rintro ⟨o, rfl⟩
    exact Fenced.afterOpening?_append
      { prose := [], tag := o.tag, blanks := o.blanks, opening := o.ending, fragment := [],
        closing := .crlf, isTag := o.isTag, isBlank := o.isBlank } rest

/-- An opening line holds the three backticks that it begins with. -/
theorem Opening.count_chars (o : Opening) : o.chars.count '\x60' = 3 := by
  have tag : o.tag.count '\x60' = 0 := by
    rw [List.count_eq_zero]
    intro h
    simpa using o.isTag '\x60' h
  have blanks : o.blanks.count '\x60' = 0 := by
    rw [List.count_eq_zero]
    intro h
    simpa using o.isBlank '\x60' h
  have ending : o.ending.chars.count '\x60' = 0 := by cases o.ending <;> decide
  have begins : fence.count '\x60' = 3 := by decide
  simp only [chars, List.count_append, tag, blanks, ending, begins]

/-! ## Closings -/

theorem afterClosing?_eq_some_iff {cs rest : List Char} :
    afterClosing? cs = some rest ↔ ∃ closing ∈ closings, cs = closing ++ (fence ++ rest) := by
  constructor
  · intro h
    have dropped := Text.dropPrefix?_eq_some_iff.1 h
    unfold dropLineEnd at dropped
    split at dropped
    next => exact ⟨['\r', '\n'], by simp [closings], by rw [dropped]; rfl⟩
    next => exact ⟨['\r'], by simp [closings], by rw [dropped]; rfl⟩
    next => exact ⟨['\n'], by simp [closings], by rw [dropped]; rfl⟩
    next => exact ⟨[], by simp [closings], dropped⟩
  · rintro ⟨closing, hclosing, rfl⟩
    simp only [closings, List.mem_cons, List.not_mem_nil, or_false] at hclosing
    obtain rfl | rfl | rfl | rfl := hclosing <;> exact Text.dropPrefix?_eq_some_iff.2 rfl

/-- A fragment is what stands up to the first fence, less a line end. -/
theorem fragmentBefore?_eq_some {cs fragment after : List Char}
    (h : fragmentBefore? cs = some (fragment, after)) :
    (∃ closing ∈ closings, cs = fragment ++ (closing ++ (fence ++ after))) ∧
      ¬ fence <:+: fragment := by
  induction cs generalizing fragment with
  | nil => simp [fragmentBefore?] at h
  | cons c cs ih =>
      rw [fragmentBefore?] at h
      split at h
      next rest closed =>
        obtain ⟨rfl, rfl⟩ := Prod.mk.inj (Option.some.inj h)
        exact ⟨afterClosing?_eq_some_iff.1 closed, by decide⟩
      next unclosed =>
        obtain ⟨⟨f, a⟩, hf, heq⟩ := Option.map_eq_some_iff.1 h
        obtain ⟨rfl, rfl⟩ := Prod.mk.inj heq
        obtain ⟨⟨closing, hclosing, rfl⟩, noFence⟩ := ih hf
        refine ⟨⟨closing, hclosing, rfl⟩, fun inside => ?_⟩
        obtain ⟨more, hmore⟩ | below := List.infix_cons_iff.1 inside
        · have closed : afterClosing? (c :: (f ++ (closing ++ (fence ++ a)))) =
              some (more ++ (closing ++ (fence ++ a))) :=
            afterClosing?_eq_some_iff.2 ⟨[], by simp [closings], by
              rw [List.nil_append, ← List.append_assoc fence, hmore, List.cons_append]⟩
          simp [closed] at unclosed
        · exact noFence below

theorem isSome_fragmentBefore?_iff {cs : List Char} :
    (fragmentBefore? cs).isSome ↔ fence <:+: cs := by
  constructor
  · intro h
    obtain ⟨⟨fragment, after⟩, found⟩ := Option.isSome_iff_exists.1 h
    obtain ⟨⟨closing, -, rfl⟩, -⟩ := fragmentBefore?_eq_some found
    exact ⟨fragment ++ closing, after, by simp⟩
  · intro h
    induction cs with
    | nil => exact absurd h (by decide)
    | cons c cs ih =>
        rw [fragmentBefore?]
        split
        next => rfl
        next unclosed =>
          obtain ⟨more, hmore⟩ | below := List.infix_cons_iff.1 h
          · have closed : afterClosing? (c :: cs) = some more :=
              afterClosing?_eq_some_iff.2 ⟨[], by simp [closings], hmore.symm⟩
            simp [closed] at unclosed
          · simpa using ih below

/-- A closing that is cut off holds no fence. -/
theorem eq_of_fence_infix : ∀ closing ∈ closings, ∀ cs ∈ (closing ++ fence).inits,
    fence <:+: cs → cs = closing ++ fence := by
  decide

/-- What is added behind a fence does not move it. -/
theorem afterClosing?_of_fence {cs rest t : List Char} (hfence : fence <:+: cs)
    (h : afterClosing? (cs ++ t) = some rest) : ∃ rest', afterClosing? cs = some rest' := by
  obtain ⟨closing, hclosing, heq⟩ := afterClosing?_eq_some_iff.1 h
  rw [← List.append_assoc] at heq
  obtain ⟨short, whole, -⟩ | ⟨rest', rfl, -⟩ := List.append_eq_append_iff.1 heq
  · have cut : cs ∈ (closing ++ fence).inits := (List.mem_inits _ _).2 ⟨short, whole.symm⟩
    obtain rfl := eq_of_fence_infix closing hclosing cs cut hfence
    exact ⟨[], afterClosing?_eq_some_iff.2 ⟨closing, hclosing, by simp⟩⟩
  · exact ⟨rest', afterClosing?_eq_some_iff.2 ⟨closing, hclosing, by simp⟩⟩

theorem fragmentBefore?_append_right {cs fragment after : List Char}
    (h : fragmentBefore? cs = some (fragment, after)) (t : List Char) :
    fragmentBefore? (cs ++ t) = some (fragment, after ++ t) := by
  induction cs generalizing fragment with
  | nil => simp [fragmentBefore?] at h
  | cons c cs ih =>
      have hfence : fence <:+: c :: cs := isSome_fragmentBefore?_iff.1 (by simp [h])
      rw [fragmentBefore?] at h
      split at h
      next rest closed =>
        obtain ⟨rfl, rfl⟩ := Prod.mk.inj (Option.some.inj h)
        obtain ⟨closing, hclosing, heq⟩ := afterClosing?_eq_some_iff.1 closed
        exact fragmentBefore?_of_closing
          (afterClosing?_eq_some_iff.2 ⟨closing, hclosing, by simp [heq]⟩)
      next unclosed =>
        obtain ⟨⟨f, a⟩, hf, heq⟩ := Option.map_eq_some_iff.1 h
        obtain ⟨rfl, rfl⟩ := Prod.mk.inj heq
        rw [List.cons_append, fragmentBefore?, ← List.cons_append]
        split
        next rest closed =>
          obtain ⟨rest', closed'⟩ := afterClosing?_of_fence hfence closed
          simp [closed'] at unclosed
        next => simp [ih hf]

/-! ## Blocks -/

theorem isSome_block?_iff {cs : List Char} : (block? cs).isSome ↔ BeginsBlock cs := by
  constructor
  · intro h
    obtain ⟨found, hfound⟩ := Option.isSome_iff_exists.1 h
    obtain ⟨rest, hrest, hfragment⟩ := Option.bind_eq_some_iff.1 hfound
    obtain ⟨o, rfl⟩ := afterOpening?_eq_some_iff.1 hrest
    exact ⟨o, rest, rfl, isSome_fragmentBefore?_iff.1 (by simp [hfragment])⟩
  · rintro ⟨o, rest, rfl, hfence⟩
    rw [block?, afterOpening?_eq_some_iff.2 ⟨o, rfl⟩, Option.bind_some]
    exact isSome_fragmentBefore?_iff.2 hfence

theorem block?_append {cs fragment after : List Char} (h : block? cs = some (fragment, after))
    (t : List Char) : block? (cs ++ t) = some (fragment, after ++ t) := by
  obtain ⟨rest, hrest, hfragment⟩ := Option.bind_eq_some_iff.1 h
  obtain ⟨o, rfl⟩ := afterOpening?_eq_some_iff.1 hrest
  rw [block?, afterOpening?_eq_some_iff.2 ⟨o, List.append_assoc ..⟩, Option.bind_some]
  exact fragmentBefore?_append_right hfragment t

theorem BeginsBlock.append {cs : List Char} (h : BeginsBlock cs) (t : List Char) :
    BeginsBlock (cs ++ t) := by
  obtain ⟨o, rest, rfl, hfence⟩ := h
  exact ⟨o, rest ++ t, List.append_assoc .., hfence.trans (List.prefix_append rest t).isInfix⟩

theorem not_hasBlock_nil : ¬ HasBlock [] := by
  rintro ⟨before, after, heq, o, rest, rfl, -⟩
  simp [Opening.chars, fence] at heq

theorem hasBlock_cons_iff {c : Char} {cs : List Char} :
    HasBlock (c :: cs) ↔ BeginsBlock (c :: cs) ∨ HasBlock cs := by
  constructor
  · rintro ⟨before, after, heq, begins⟩
    cases before with
    | nil => exact .inl (by rwa [heq])
    | cons b before =>
        obtain ⟨rfl, rfl⟩ := List.cons.inj heq
        exact .inr ⟨before, after, rfl, begins⟩
  · rintro (begins | ⟨before, after, rfl, begins⟩)
    · exact ⟨[], c :: cs, rfl, begins⟩
    · exact ⟨c :: before, after, rfl, begins⟩

theorem blocks_eq_nil_iff {cs : List Char} : blocks cs = [] ↔ ¬ HasBlock cs := by
  induction cs using blocks.induct with
  | case1 => simp [blocks, not_hasBlock_nil]
  | case2 c rest fragment after found _ =>
      have begins : BeginsBlock (c :: rest) := isSome_block?_iff.1 (by simp [found])
      simp [blocks_of_block? found, hasBlock_cons_iff, begins]
  | case3 c rest missing ih =>
      have begins : ¬ BeginsBlock (c :: rest) := fun h => by
        simpa [missing] using isSome_block?_iff.2 h
      rw [blocks_cons_of_none missing, ih, hasBlock_cons_iff, or_iff_right begins]

/-- The text is made of the blocks whose fragments are found and of what stands between them, in
which there is no block. -/
theorem exists_blocks (cs : List Char) : ∃ (found : List Block) (last : List Char),
    cs = found.flatMap Block.text ++ last ∧ blocks cs = found.map (·.fragment) ∧
      (∀ b ∈ found, ¬ fence <:+: b.fragment ∧ ¬ HasBlock b.prose) ∧ ¬ HasBlock last := by
  induction cs using blocks.induct with
  | case1 => exact ⟨[], [], rfl, by simp [blocks], by simp, not_hasBlock_nil⟩
  | case2 c rest fragment after hblock ih =>
      obtain ⟨found, last, rfl, hfragments, each, hlast⟩ := ih
      obtain ⟨body, hbody, hfragment⟩ := Option.bind_eq_some_iff.1 hblock
      obtain ⟨o, ho⟩ := afterOpening?_eq_some_iff.1 hbody
      obtain ⟨⟨closing, hclosing, rfl⟩, noFence⟩ := fragmentBefore?_eq_some hfragment
      let b : Block := ⟨[], o, fragment, closing, hclosing⟩
      refine ⟨b :: found, last, ?_, ?_, ?_, hlast⟩
      · simp [ho, b, Block.text]
      · rw [blocks_of_block? hblock, hfragments, List.map_cons]
      · exact List.forall_mem_cons.2 ⟨⟨noFence, not_hasBlock_nil⟩, each⟩
  | case3 c rest missing ih =>
      obtain ⟨found, last, rfl, hfragments, each, hlast⟩ := ih
      -- a block that began at this character would still begin there in the whole text
      have begins : ∀ part more, c :: (found.flatMap Block.text ++ last) = part ++ more →
          ¬ BeginsBlock part := by
        intro part more heq h
        have whole := isSome_block?_iff.2 (h.append more)
        simp [← heq, missing] at whole
      rw [blocks_cons_of_none missing]
      cases found with
      | nil =>
          refine ⟨[], c :: last, rfl, hfragments, by simp, fun h => ?_⟩
          obtain here | later := hasBlock_cons_iff.1 h
          · exact begins (c :: last) [] (by simp) here
          · exact hlast later
      | cons b found =>
          obtain ⟨⟨noFence, noBlock⟩, each⟩ := List.forall_mem_cons.1 each
          refine ⟨{ b with prose := c :: b.prose } :: found, last, by simp [Block.text], ?_, ?_,
            hlast⟩
          · simpa using hfragments
          · refine List.forall_mem_cons.2 ⟨⟨noFence, fun h => ?_⟩, each⟩
            obtain here | later := hasBlock_cons_iff.1 h
            · exact begins (c :: b.prose) _ (by simp [Block.text]; rfl) here
            · exact noBlock later

/-! ## Text that comes later -/

/-- A text that begins a block only with what comes later has no block. -/
theorem not_hasBlock_of_begins_later {cs t : List Char} (later : BeginsBlock (cs ++ t))
    (now : ¬ BeginsBlock cs) : ¬ HasBlock cs := by
  rintro ⟨before, _, rfl, o, _, rfl, left, right, rfl⟩
  obtain ⟨o', rest, heq, -⟩ := later
  -- the fence that closes the block stands behind the opening line
  have whole : (before ++ o.chars ++ left) ++ (fence ++ (right ++ t)) = o'.chars ++ rest := by
    simpa using heq
  obtain ⟨more, hline, hrest⟩ | ⟨more, hline, -⟩ := List.append_eq_append_iff.1 whole
  · -- otherwise the line would hold the backticks of both fences
    cases more with
    | nil => exact now ⟨o', fence ++ right, by simp [hline], ⟨[], right, by simp⟩⟩
    | cons d more =>
        obtain rfl : '\x60' = d := by simpa [fence] using congrArg List.head? hrest
        have line := congrArg (List.count '\x60') hline
        simp only [List.count_append, Opening.count_chars, List.count_cons_self] at line
        omega
  · refine now ⟨o', more ++ (fence ++ right), ?_, ⟨more, right, by simp⟩⟩
    calc before ++ (o.chars ++ (left ++ fence ++ right))
        = (before ++ o.chars ++ left) ++ (fence ++ right) := by simp
      _ = o'.chars ++ (more ++ (fence ++ right)) := by rw [hline, List.append_assoc]

theorem blocks_prefix_append (cs t : List Char) : blocks cs <+: blocks (cs ++ t) := by
  induction cs using blocks.induct with
  | case1 => simp [blocks]
  | case2 c rest fragment after found ih =>
      rw [blocks_of_block? found, blocks_of_block? (block?_append found t)]
      exact (List.prefix_cons_inj fragment).2 ih
  | case3 c rest missing ih =>
      have now : ¬ BeginsBlock (c :: rest) := fun h => by
        simpa [missing] using isSome_block?_iff.2 h
      by_cases later : BeginsBlock (c :: rest ++ t)
      · rw [blocks_eq_nil_iff.2 (not_hasBlock_of_begins_later later now)]
        exact List.nil_prefix
      · have missing' : block? (c :: (rest ++ t)) = none :=
          Option.not_isSome_iff_eq_none.1 fun h => later (isSome_block?_iff.1 h)
        rw [blocks_cons_of_none missing, List.cons_append, blocks_cons_of_none missing']
        exact ih

theorem getD_extractFragments (completion : String) :
    (extractFragments completion).getD [] = (blocks completion.toList).map String.ofList := by
  unfold extractFragments
  split
  next none => simp [none]
  next => rfl

theorem extractFragments_eq_none_iff {completion : String} :
    extractFragments completion = none ↔ blocks completion.toList = [] := by
  unfold extractFragments
  split
  next none => simp [none]
  next some => simpa using some

/-- In any text extraction finds the fragments of blocks that stand apart from each other, in order
and without a fence in them, and it leaves out no block before, between or after these; it finds
nothing only where there is no block. What is added to a text adds fragments after the ones that
are there and changes none of them. -/
theorem extractFragments_of_any_text (completion : String) :
    (extractFragments completion = none ↔ ¬ HasBlock completion.toList) ∧
    (∃ (found : List Block) (last : List Char),
      completion.toList = found.flatMap Block.text ++ last ∧
      (extractFragments completion).getD [] = found.map (fun b => String.ofList b.fragment) ∧
      (∀ b ∈ found, ¬ fence <:+: b.fragment ∧ ¬ HasBlock b.prose) ∧ ¬ HasBlock last) ∧
    ∀ t : String, (extractFragments completion).getD [] <+:
      (extractFragments (completion ++ t)).getD [] := by
  refine ⟨extractFragments_eq_none_iff.trans blocks_eq_nil_iff, ?_, fun t => ?_⟩
  · obtain ⟨found, last, htext, hfragments, each, hlast⟩ := exists_blocks completion.toList
    refine ⟨found, last, htext, ?_, each, hlast⟩
    rw [getD_extractFragments, hfragments, List.map_map]
    rfl
  · rw [getD_extractFragments, getD_extractFragments, String.toList_append]
    exact (blocks_prefix_append completion.toList t.toList).map String.ofList

/-- Whatever follows it on its line, a fence closes the block that is open, and it opens no other
block. -/
example : extractFragments "\x60\x60\x60js\n\x60\x60\x60 py\na\x60\x60\x60\n\x60\x60\x60\nb" =
    some ["", ""] := by
  decide +kernel

end Mutagenesis
