import Mathlib.Algebra.BigOperators.Group.List.Basic
import Mathlib.Data.List.Forall2
import Mathlib.Logic.Relation
import Mutagenesis.Glob.Compile
import Mutagenesis.Proofs.Text

/-!
# Choices in globs

The patterns that a glob stands for come of choosing from its pairs of braces, one after the other.
An alternative may hold an opening brace, so a choice can leave a new pair behind; but it takes a
closing brace away, and that bounds the number of choices. A glob of plain groups stands for all
combinations of their alternatives, in the order in which the last group varies fastest.
-/
namespace Mutagenesis.Glob

open Text (splitOn joinWith splitOn_joinWith mem_of_mem_joinWith)

variable {α : Type} {pattern chosen before inside after : List Char} {c : Char}

/-! ## Pairs of braces -/

/-- Whether an opening brace of a text has a closing one behind it. -/
def HasPair (pattern : List Char) : Prop :=
  ∃ before inside after, pattern = before ++ '\x7b' :: inside ++ '\x7d' :: after

theorem dropWhile_ne_append (first : c ∉ before) :
    (before ++ c :: after).dropWhile (· ≠ c) = c :: after := by
  have others : ∀ b ∈ before, decide (b ≠ c) = true := by
    simpa using fun b hb => ne_of_mem_of_not_mem hb first
  rw [List.dropWhile_append_of_pos others]
  simp

theorem takeWhile_ne_append (first : c ∉ before) :
    (before ++ c :: after).takeWhile (· ≠ c) = before := by
  have others : ∀ b ∈ before, decide (b ≠ c) = true := by
    simpa using fun b hb => ne_of_mem_of_not_mem hb first
  rw [List.takeWhile_append_of_pos others]
  simp

/-- The first pair of braces begins with the first opening brace and ends with the first closing one
behind it. -/
theorem firstBraces?_append (first : '\x7b' ∉ before) (closed : '\x7d' ∉ inside) :
    firstBraces? (before ++ '\x7b' :: inside ++ '\x7d' :: after) =
      some (before, inside, after) := by
  rw [List.append_assoc, List.cons_append]
  simp only [firstBraces?, dropWhile_ne_append first, dropWhile_ne_append closed,
    takeWhile_ne_append first, takeWhile_ne_append closed]

/-- If an opening brace has a closing one behind it, the first opening brace does. -/
theorem HasPair.exists_first (h : HasPair pattern) :
    ∃ before inside after, '\x7b' ∉ before ∧ '\x7d' ∉ inside ∧
      pattern = before ++ '\x7b' :: inside ++ '\x7d' :: after := by
  obtain ⟨before, inside, after, rfl⟩ := h
  obtain ⟨front, rest, first, closing, split⟩ : ∃ front rest, '\x7b' ∉ front ∧ '\x7d' ∈ rest ∧
      before ++ '\x7b' :: inside ++ '\x7d' :: after = front ++ '\x7b' :: rest := by
    by_cases earlier : '\x7b' ∈ before
    · obtain ⟨front, between, rfl, first⟩ := List.eq_append_cons_of_mem earlier
      exact ⟨front, between ++ '\x7b' :: inside ++ '\x7d' :: after, first, by simp, by simp⟩
    · exact ⟨before, inside ++ '\x7d' :: after, earlier, by simp, by simp⟩
  obtain ⟨own, others, rfl, closed⟩ := List.eq_append_cons_of_mem closing
  exact ⟨front, own, others, first, closed, by simp [split]⟩

theorem firstBraces?_eq_none_iff : firstBraces? pattern = none ↔ ¬ HasPair pattern := by
  constructor
  · rintro none_left pair
    obtain ⟨before, inside, after, first, closed, rfl⟩ := pair.exists_first
    simp [firstBraces?_append first closed, -List.append_assoc, -List.cons_append] at none_left
  · intro none_left
    cases braces : firstBraces? pattern with
    | none => rfl
    | some parts => exact absurd ⟨_, _, _, (firstBraces?_eq_some braces).1⟩ none_left

theorem firstBraces?_eq_some_iff :
    firstBraces? pattern = some (before, inside, after) ↔ '\x7b' ∉ before ∧ '\x7d' ∉ inside ∧
      pattern = before ++ '\x7b' :: inside ++ '\x7d' :: after := by
  constructor
  · intro braces
    have pair : HasPair pattern := ⟨_, _, _, (firstBraces?_eq_some braces).1⟩
    obtain ⟨before', inside', after', first, closed, rfl⟩ := pair.exists_first
    rw [firstBraces?_append first closed] at braces
    obtain ⟨rfl, rfl, rfl⟩ : _ ∧ _ ∧ _ := by simpa using braces
    exact ⟨first, closed, rfl⟩
  · rintro ⟨first, closed, rfl⟩
    exact firstBraces?_append first closed

/-! ## Choosing -/

/-- A text without a pair of braces stands for itself. -/
theorem expandBraces_of_not_hasPair (h : ¬ HasPair pattern) : expandBraces pattern = [pattern] := by
  rw [expandBraces]
  split
  next => rfl
  next braces => simp [firstBraces?_eq_none_iff.2 h] at braces

/-- A text with a pair of braces stands for what comes of each alternative in its first pair. -/
theorem expandBraces_append (first : '\x7b' ∉ before) (closed : '\x7d' ∉ inside) :
    expandBraces (before ++ '\x7b' :: inside ++ '\x7d' :: after) =
      (splitOn ',' inside).flatMap fun alternative =>
        expandBraces (before ++ alternative ++ after) := by
  rw [expandBraces]
  split
  next none_left => exact absurd ⟨_, _, _, rfl⟩ (firstBraces?_eq_none_iff.1 none_left)
  next braces =>
    rw [firstBraces?_append first closed] at braces
    obtain ⟨rfl, rfl, rfl⟩ : _ ∧ _ ∧ _ := by simpa using braces
    conv_rhs => rw [← List.attach_map_subtype_val (splitOn ',' inside), List.flatMap_map]

/-- One choice: the first pair of braces gives way to one of the alternatives in it. -/
inductive Chooses : List Char → List Char → Prop
  | alternative {before inside after alternative} (first : '\x7b' ∉ before)
      (closed : '\x7d' ∉ inside) (offered : alternative ∈ splitOn ',' inside) :
      Chooses (before ++ '\x7b' :: inside ++ '\x7d' :: after) (before ++ alternative ++ after)

theorem Chooses.hasPair (h : Chooses pattern chosen) : HasPair pattern := by
  cases h with
  | alternative first closed offered => exact ⟨_, _, _, rfl⟩

/-- A choice takes closing braces away, for an alternative holds none. -/
theorem Chooses.count_lt (h : Chooses pattern chosen) :
    chosen.count '\x7d' < pattern.count '\x7d' := by
  cases h with
  | @alternative before inside after alternative first closed offered =>
      have none_in : alternative.count '\x7d' = 0 :=
        List.count_eq_zero.2 fun hc => closed (mem_of_mem_splitOn offered hc)
      simp only [List.count_append, List.count_cons_self, List.count_cons, none_in]
      omega

/-- No chain of choices is longer than the number of closing braces. -/
theorem length_le_of_isChain {chain : List (List Char)}
    (h : List.IsChain Chooses (pattern :: chain)) : chain.length ≤ pattern.count '\x7d' := by
  induction chain generalizing pattern with
  | nil => simp
  | cons chosen chain ih =>
      rw [List.isChain_cons_cons] at h
      have fewer := h.1.count_lt
      have rest := ih h.2
      rw [List.length_cons]
      omega

theorem chooses_append_iff (first : '\x7b' ∉ before) (closed : '\x7d' ∉ inside) :
    Chooses (before ++ '\x7b' :: inside ++ '\x7d' :: after) chosen ↔
      ∃ alternative ∈ splitOn ',' inside, chosen = before ++ alternative ++ after := by
  constructor
  · intro h
    generalize text : before ++ '\x7b' :: inside ++ '\x7d' :: after = pattern at h
    cases h with
    | @alternative _ _ _ alternative first' closed' offered =>
        have same := congrArg firstBraces? text
        rw [firstBraces?_append first closed, firstBraces?_append first' closed'] at same
        obtain ⟨rfl, rfl, rfl⟩ : _ ∧ _ ∧ _ := by simpa using same
        exact ⟨alternative, offered, rfl⟩
  · rintro ⟨alternative, offered, rfl⟩
    exact .alternative first closed offered

/-- A text stands for what choices lead to where there is nothing left to choose. -/
theorem mem_expandBraces_iff :
    chosen ∈ expandBraces pattern ↔
      Relation.ReflTransGen Chooses pattern chosen ∧ ¬ HasPair chosen := by
  induction pattern using expandBraces.induct with
  | case1 pattern none_left =>
      have single := firstBraces?_eq_none_iff.1 none_left
      rw [expandBraces_of_not_hasPair single, List.mem_singleton]
      constructor
      · rintro rfl
        exact ⟨.refl, single⟩
      · rintro ⟨reached, -⟩
        obtain rfl | ⟨next, choice, -⟩ := reached.cases_head
        · rfl
        · exact absurd choice.hasPair single
  | case2 pattern before inside after braces ih =>
      obtain ⟨first, closed, rfl⟩ := firstBraces?_eq_some_iff.1 braces
      rw [expandBraces_append first closed, List.mem_flatMap]
      constructor
      · rintro ⟨alternative, offered, mem⟩
        obtain ⟨reached, done⟩ := (ih ⟨alternative, offered⟩).1 mem
        exact ⟨.head (.alternative first closed offered) reached, done⟩
      · rintro ⟨reached, done⟩
        obtain rfl | ⟨next, choice, reached⟩ := reached.cases_head
        · exact absurd ⟨_, _, _, rfl⟩ done
        · obtain ⟨alternative, offered, rfl⟩ := (chooses_append_iff first closed).1 choice
          exact ⟨alternative, offered, (ih ⟨alternative, offered⟩).2 ⟨reached, done⟩⟩

/-! ## Combinations -/

/-- All ways to take an item from each list. Those of the last list vary fastest. -/
def choices : List (List α) → List (List α)
  | [] => [[]]
  | xs :: more => xs.flatMap fun x => (choices more).map (x :: ·)

theorem length_choices (options : List (List α)) :
    (choices options).length = (options.map List.length).prod := by
  induction options with
  | nil => rfl
  | cons xs more ih => simp [choices, ih, List.length_flatMap]

/-- Where the combination of the items at some positions stands among all: the positions are the
digits of its place, the first one with the most weight. -/
def placeOf : List (List α) → List Nat → Nat
  | _ :: more, i :: is => i * (more.map List.length).prod + placeOf more is
  | _, _ => 0

/-- The items of lists at positions. -/
def itemsAt (options : List (List α)) (positions : List Nat) : List (Option α) :=
  List.zipWith (fun xs i => xs[i]?) options positions

theorem placeOf_lt {options : List (List α)} {positions : List Nat}
    (h : List.Forall₂ (fun xs i => i < xs.length) options positions) :
    placeOf options positions < (options.map List.length).prod := by
  induction h with
  | nil => simp [placeOf]
  | @cons xs i more is first _ ih =>
      have room : (i + 1) * (more.map List.length).prod ≤ xs.length * (more.map List.length).prod :=
        Nat.mul_le_mul_right _ first
      rw [Nat.add_mul, one_mul] at room
      simp only [placeOf, List.map_cons, List.prod_cons]
      omega

/-- Blocks of one length are found one after the other. -/
theorem getElem?_flatMap {β : Type} {f : α → List β} {n : Nat} (long : ∀ x, (f x).length = n)
    {xs : List α} {i j : Nat} (h : j < n) :
    (xs.flatMap f)[i * n + j]? = xs[i]?.bind fun x => (f x)[j]? := by
  induction xs generalizing i with
  | nil => simp
  | cons x xs ih =>
      cases i with
      | zero => simp [List.getElem?_append_left, long, h]
      | succ i =>
          have behind : (f x).length ≤ (i + 1) * n + j := by
            rw [long, Nat.add_mul, one_mul]
            omega
          have index : (i + 1) * n + j - (f x).length = i * n + j := by
            rw [long, Nat.add_mul, one_mul]
            omega
          rw [List.flatMap_cons, List.getElem?_append_right behind, index, ih,
            List.getElem?_cons_succ]

theorem getElem?_choices {options : List (List α)} {positions : List Nat} {items : List α}
    (h : List.Forall₂ (fun xs i => i < xs.length) options positions)
    (taken : itemsAt options positions = items.map some) :
    (choices options)[placeOf options positions]? = some items := by
  induction h generalizing items with
  | nil =>
      obtain rfl : items = [] := by simpa [itemsAt] using taken
      rfl
  | @cons xs i more is first others ih =>
      cases items with
      | nil => simp [itemsAt] at taken
      | cons x items =>
          rw [itemsAt, List.zipWith_cons_cons, List.map_cons] at taken
          obtain ⟨found, taken⟩ := List.cons.inj taken
          have place := placeOf_lt others
          rw [choices, placeOf, getElem?_flatMap (by simp [length_choices]) place, found]
          simp [ih taken]

/-! ## Groups -/

/-- A group of alternatives and the text behind it, up to the next group. -/
structure Group where
  alternatives : List (List Char)
  after : List Char

namespace Group

/-- The group as it is written. -/
def text (g : Group) : List Char := '\x7b' :: joinWith [','] g.alternatives ++ '\x7d' :: g.after

/-- Whether a group has alternatives of which none holds a brace or a comma, and no brace opens
behind it. -/
structure IsPlain (g : Group) : Prop where
  nonempty : g.alternatives ≠ []
  alternatives : ∀ a ∈ g.alternatives, '\x7b' ∉ a ∧ '\x7d' ∉ a ∧ ',' ∉ a
  after : '\x7b' ∉ g.after

end Group

/-- A text with groups behind it. -/
def grouped (lead : List Char) (groups : List Group) : List Char :=
  lead ++ groups.flatMap Group.text

/-- The text with alternatives in place of its groups. -/
def filled (lead : List Char) (groups : List Group) (chosen : List (List Char)) : List Char :=
  lead ++ (List.zipWith (fun a (g : Group) => a ++ g.after) chosen groups).flatten

/-- Choosing from the first group leaves the text up to the next one in front of the others. -/
theorem expandBraces_grouped {lead : List Char} {groups : List Group} (first : '\x7b' ∉ lead)
    (plain : ∀ g ∈ groups, g.IsPlain) :
    expandBraces (grouped lead groups) =
      (choices (groups.map (·.alternatives))).map (filled lead groups) := by
  induction groups generalizing lead with
  | nil =>
      have single : ¬ HasPair lead := by
        rintro ⟨before, inside, after, rfl⟩
        simp at first
      simpa [grouped, filled, choices] using expandBraces_of_not_hasPair single
  | cons g groups ih =>
      rw [List.forall_mem_cons] at plain
      obtain ⟨own, plain⟩ := plain
      have closed : '\x7d' ∉ joinWith [','] g.alternatives := by
        intro within
        obtain comma | ⟨a, ha, within⟩ := mem_of_mem_joinWith within
        · simp at comma
        · exact (own.alternatives a ha).2.1 within
      have split : splitOn ',' (joinWith [','] g.alternatives) = g.alternatives :=
        splitOn_joinWith own.nonempty fun a ha => (own.alternatives a ha).2.2
      have text : grouped lead (g :: groups) = lead ++ '\x7b' :: joinWith [','] g.alternatives ++
          '\x7d' :: (g.after ++ groups.flatMap Group.text) := by
        simp [grouped, Group.text]
      rw [text, expandBraces_append first closed, split, List.map_cons, choices, List.map_flatMap]
      refine List.flatMap_congr fun a ha => ?_
      have again : lead ++ a ++ (g.after ++ groups.flatMap Group.text) =
          grouped (lead ++ a ++ g.after) groups := by
        simp [grouped]
      have first' : '\x7b' ∉ lead ++ a ++ g.after := by
        simp [first, (own.alternatives a ha).1, own.after]
      rw [again, ih first' plain, List.map_map]
      refine List.map_congr_left fun chosen _ => ?_
      simp [filled]

/-- Expanding comes to an end on every text: choices run out, and what they lead to are the
patterns. A text stands for itself exactly when it has no pair of braces, and a glob of plain groups
for the combinations of their alternatives, as many as there are and the last group fastest. -/
theorem expandBraces_exact (pattern : List Char) :
    (∀ chain, List.IsChain Chooses (pattern :: chain) → chain.length ≤ pattern.count '\x7d') ∧
    (∀ chosen, chosen ∈ expandBraces pattern ↔
      Relation.ReflTransGen Chooses pattern chosen ∧ ¬ HasPair chosen) ∧
    (expandBraces pattern = [pattern] ↔ ¬ HasPair pattern) ∧
    ∀ lead groups, '\x7b' ∉ lead → (∀ g ∈ groups, g.IsPlain) → pattern = grouped lead groups →
      expandBraces pattern = (choices (groups.map (·.alternatives))).map (filled lead groups) ∧
      (expandBraces pattern).length = (groups.map (·.alternatives.length)).prod ∧
      ∀ positions chosen, List.Forall₂ (fun (g : Group) i => i < g.alternatives.length)
          groups positions →
        itemsAt (groups.map (·.alternatives)) positions = chosen.map some →
          (expandBraces pattern)[placeOf (groups.map (·.alternatives)) positions]? =
            some (filled lead groups chosen) := by
  refine ⟨fun _ => length_le_of_isChain, fun _ => mem_expandBraces_iff, ?_, ?_⟩
  · constructor
    · intro same
      exact (mem_expandBraces_iff.1 (same ▸ List.mem_singleton_self pattern)).2
    · exact expandBraces_of_not_hasPair
  · rintro lead groups first plain rfl
    have expanded := expandBraces_grouped first plain
    refine ⟨expanded, ?_, ?_⟩
    · rw [expanded, List.length_map, length_choices, List.map_map]
      rfl
    · intro positions chosen within taken
      rw [expanded, List.getElem?_map, getElem?_choices (List.forall₂_map_left_iff.2 within) taken]
      rfl

/-- Two groups, with closing braces outside of them and an alternative left empty, make four
patterns; braces the wrong way round make one; and of braces within braces the outer opening one is
paired first, with the inner closing one. -/
theorem expandBraces_exact_of_groups :
    let text := "\x7da\x7bb,\x7dc\x7d\x7bd,e\x7df".toList
    let groups : List Group := [⟨[['b'], []], ['c', '\x7d']⟩, ⟨[['d'], ['e']], ['f']⟩]
    let reversed := "\x7d\x7b".toList
    let nested := "\x7ba\x7bb,c\x7d\x7d".toList
    expandBraces text =
        ["\x7dabc\x7ddf", "\x7dabc\x7def", "\x7dac\x7ddf", "\x7dac\x7def"].map String.toList ∧
      (expandBraces text).length = 2 * 2 ∧
      (expandBraces text)[placeOf (groups.map (·.alternatives)) [1, 0]]? =
        some "\x7dac\x7ddf".toList ∧
      expandBraces reversed = [reversed] ∧
      ["a\x7bb\x7d".toList, "ab".toList].length ≤ nested.count '\x7d' ∧
      "ab".toList ∈ expandBraces nested := by
  intro text groups reversed nested
  have plain : ∀ g ∈ groups, g.IsPlain := by
    simp only [groups, List.forall_mem_cons]
    refine ⟨?_, ?_, by simp⟩ <;> constructor <;> decide
  obtain ⟨-, -, -, whole⟩ := expandBraces_exact text
  obtain ⟨combined, number, placed⟩ := whole ['\x7d', 'a'] groups (by decide) plain (by decide)
  obtain ⟨-, -, single, -⟩ := expandBraces_exact reversed
  obtain ⟨bounded, reached, -, -⟩ := expandBraces_exact nested
  have outer : Chooses nested "a\x7bb\x7d".toList :=
    @Chooses.alternative [] "a\x7bb,c".toList ['\x7d'] "a\x7bb".toList (by decide) (by decide)
      (by decide)
  have inner : Chooses "a\x7bb\x7d".toList "ab".toList :=
    @Chooses.alternative ['a'] ['b'] [] ['b'] (by decide) (by decide) (by decide)
  exact ⟨combined.trans (by decide), number, placed [1, 0] [[], ['d']] (by decide) (by decide),
    single.2 (firstBraces?_eq_none_iff.1 (by decide)),
    bounded _ (.cons_cons outer (.cons_cons inner (.singleton _))),
    (reached _).2 ⟨.head outer (.single inner), firstBraces?_eq_none_iff.1 (by decide)⟩⟩

end Mutagenesis.Glob
