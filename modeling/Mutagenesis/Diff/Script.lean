/-!
# Edit scripts

How to make one list of lines of another with few edits. Lines that both begin or end with are
kept; what is left is divided at the middle of a shortest script and both parts are treated alike.
The middle is found by two searches, one from the start and one from the end, that each extend
their furthest reach on every diagonal by one edit at a time until they meet.
-/
namespace Mutagenesis.Diff

/-- What becomes of a run of lines. -/
inductive Action where
  | keep
  | remove
  | add
  deriving DecidableEq, Repr

/-- A run of lines that are kept, removed or added, and where it stands in either list. -/
structure Edit where
  action : Action
  oldStart : Nat
  newStart : Nat
  length : Nat
  deriving DecidableEq, Repr

/-- How many lines the lists begin with in common. -/
def commonStart : List String → List String → Nat
  | a :: old, b :: new => if a = b then commonStart old new + 1 else 0
  | _, _ => 0

/-- How many lines the lists end with in common. -/
def commonEnd (old new : List String) : Nat := commonStart old.reverse new.reverse

/-- The furthest reach of a search on each diagonal. -/
structure Frontier where
  offset : Nat
  reach : Array Nat

namespace Frontier

/-- Nothing reached yet, with room for diagonals up to the bound on either side. -/
def start (bound : Nat) : Frontier := ⟨bound, Array.replicate (2 * bound + 1) 0⟩

def get (f : Frontier) (diagonal : Int) : Nat := f.reach.getD (diagonal + f.offset).toNat 0

def set (f : Frontier) (diagonal : Int) (x : Nat) : Frontier :=
  { f with reach := f.reach.setIfInBounds (diagonal + f.offset).toNat x }

/-- Where a path of `d` edits enters a diagonal: from the neighbour that reaches further. -/
def entry (f : Frontier) (d : Nat) (diagonal : Int) : Nat :=
  if diagonal = -d || (diagonal ≠ d && f.get (diagonal - 1) < f.get (diagonal + 1)) then
    f.get (diagonal + 1)
  else f.get (diagonal - 1) + 1

end Frontier

/-- How many lines from the two places on are the same; the first number bounds them. -/
def sameFrom (old new : Array String) : Nat → Nat → Nat → Nat
  | 0, _, _ => 0
  | n + 1, x, y =>
      match old[x]?, new[y]? with
      | some a, some b => if a = b then sameFrom old new n (x + 1) (y + 1) + 1 else 0
      | _, _ => 0

/-- The diagonals that paths of `d` edits end on, from the last to the first. -/
def diagonals (d : Nat) : List Int := (List.range (d + 1)).map fun i : Nat => (d : Int) - 2 * i

/-- Two lists to compare, each also in reverse. -/
structure Comparison where
  old : Array String
  new : Array String
  oldReversed : Array String
  newReversed : Array String

namespace Comparison

def ofLists (old new : List String) : Comparison :=
  ⟨old.toArray, new.toArray, old.reverse.toArray, new.reverse.toArray⟩

/-- The difference of the lengths. -/
def delta (c : Comparison) : Int := (c.old.size : Int) - c.new.size

/-- Extends the search from the start by the `d`-th edit. The outcome is its new reach, and the
place where it meets the other search. -/
def forward (c : Comparison) (d : Nat) (back : Frontier) :
    List Int → Frontier → Frontier × Option (Nat × Nat)
  | [], f => (f, none)
  | k :: ks, f =>
      let x := f.entry d k
      let y := ((x : Int) - k).toNat
      let far := x + sameFrom c.old c.new c.old.size x y
      let f := f.set k far
      let meets := c.delta % 2 ≠ 0 && (k - c.delta).natAbs + 1 ≤ d &&
        c.old.size ≤ far + back.get (c.delta - k)
      if meets then (f, some (x, y)) else forward c d back ks f

/-- Extends the search from the end by the `d`-th edit. -/
def backward (c : Comparison) (d : Nat) (front : Frontier) :
    List Int → Frontier → Frontier × Option (Nat × Nat)
  | [], b => (b, none)
  | k :: ks, b =>
      let x := b.entry d k
      let y := ((x : Int) - k).toNat
      let same := sameFrom c.oldReversed c.newReversed c.old.size x y
      let far := x + same
      let b := b.set k far
      let meets := c.delta % 2 = 0 && (k - c.delta).natAbs ≤ d &&
        c.old.size ≤ far + front.get (c.delta - k)
      if meets then (b, some (c.old.size - far, c.new.size - (y + same)))
      else backward c d front ks b

/-- Lets both searches take turns from the `d`-th edit on; the first number bounds the turns. -/
def meet (c : Comparison) : Nat → Nat → Frontier → Frontier → Option (Nat × Nat)
  | 0, _, _, _ => none
  | n + 1, d, f, b =>
      match c.forward d b (diagonals d) f with
      | (_, some found) => some found
      | (f, none) =>
          match c.backward d f (diagonals d) b with
          | (_, some found) => some found
          | (b, none) => meet c n (d + 1) f b

/-- A place that a shortest script passes through. -/
def middle? (c : Comparison) : Option (Nat × Nat) :=
  let bound := (c.old.size + c.new.size + 1) / 2 + 1
  c.meet bound 0 (.start bound) (.start bound)

end Comparison

/-- A run of lines, if there are any. -/
def run (action : Action) (oldStart newStart length : Nat) : List Edit :=
  if length = 0 then [] else [⟨action, oldStart, newStart, length⟩]

/-- The edits that make the second list of the first. `i` and `j` count the lines before them, and
the first number bounds the divisions. -/
def scriptFrom : Nat → Nat → Nat → List String → List String → List Edit
  | 0, _, _, _, _ => []
  | n + 1, i, j, old, new =>
      let before := commonStart old new
      let old := old.drop before
      let new := new.drop before
      let after := commonEnd old new
      let old := old.take (old.length - after)
      let new := new.take (new.length - after)
      let i' := i + before
      let j' := j + before
      let between :=
        if old.isEmpty || new.isEmpty then
          run .remove i' j' old.length ++ run .add i' j' new.length
        else match (Comparison.ofLists old new).middle? with
          | some (x, y) =>
              scriptFrom n i' j' (old.take x) (new.take y) ++
                scriptFrom n (i' + x) (j' + y) (old.drop x) (new.drop y)
          | none => run .remove i' j' old.length ++ run .add i' j' new.length
      run .keep i j before ++ between ++ run .keep (i' + old.length) (j' + new.length) after

/-- The edits that make the second list of the first. -/
def script (old new : List String) : List Edit :=
  scriptFrom (old.length + new.length + 2) 0 0 old new

end Mutagenesis.Diff
