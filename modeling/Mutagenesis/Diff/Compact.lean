import Mutagenesis.Diff.Script

/-!
# Compact scripts

An edit script can often be read in several ways: a removed line that equals the last line kept
before it could as well stand one line earlier. Every removal, and then every addition, is moved up
as far as it goes and then down, and joins the edits of its kind that it runs into.
-/
namespace Mutagenesis.Diff

namespace Edit

/-- The lines of the old list that the edit covers. -/
def oldLines (e : Edit) (old : Array String) : List String :=
  if e.action = .add then [] else (old.extract e.oldStart (e.oldStart + e.length)).toList

/-- The lines of the new list that the edit covers. -/
def newLines (e : Edit) (new : Array String) : List String :=
  if e.action = .remove then [] else (new.extract e.newStart (e.newStart + e.length)).toList

/-- The lines that count when edits of the kind of `e` move past a kept run. -/
def linesLike (e other : Edit) (old new : Array String) : List String :=
  if e.action = .remove then other.oldLines old else other.newLines new

def up (e : Edit) (n : Nat) : Edit :=
  { e with oldStart := e.oldStart - n, newStart := e.newStart - n }

def down (e : Edit) (n : Nat) : Edit :=
  { e with oldStart := e.oldStart + n, newStart := e.newStart + n }

def longer (e : Edit) (n : Nat) : Edit := { e with length := e.length + n }

def shorter (e : Edit) (n : Nat) : Edit := { e with length := e.length - n }

/-- The end of the edit in the old list. -/
def oldStop (e : Edit) : Nat := if e.action = .add then e.oldStart else e.oldStart + e.length

/-- The end of the edit in the new list. -/
def newStop (e : Edit) : Nat := if e.action = .remove then e.newStart else e.newStart + e.length

end Edit

/-- An edit with those above it, the nearest first, and those below it. -/
structure Spot where
  above : List Edit
  edit : Edit
  below : List Edit

namespace Spot

/-- Takes `n` kept lines from above the edit to below it. -/
def passUp (s : Spot) (kept : Edit) (above : List Edit) (n : Nat) : Spot :=
  let below := match s.below with
    | next :: more =>
        if next.action = .keep then (next.up n).longer n :: more
        else inserted :: next :: more
    | [] => [inserted]
  let left := kept.shorter n
  ⟨if left.length = 0 then above else left :: above, s.edit.up n, below⟩
where
  inserted : Edit := ⟨.keep, kept.oldStop - n, s.edit.newStop - n, n⟩

/-- Takes `n` kept lines from below the edit to above it. -/
def passDown (s : Spot) (kept : Edit) (below : List Edit) (n : Nat) : Spot :=
  let above := match s.above with
    | last :: more =>
        if last.action = .keep then last.longer n :: more else inserted :: last :: more
    | [] => [inserted]
  let left := (kept.down n).shorter n
  ⟨above, s.edit.down n, if left.length = 0 then below else left :: below⟩
where
  inserted : Edit := ⟨.keep, kept.oldStart, s.edit.newStart, n⟩

/-- Moves the edit up as far as it goes; the number bounds the moves. -/
def rise (old new : Array String) : Nat → Spot → Spot
  | 0, s => s
  | n + 1, s =>
      match s.above with
      | [] => s
      | last :: above =>
          if last.action = .keep then
            let same := commonEnd (s.edit.linesLike last old new) (s.edit.linesLike s.edit old new)
            if 0 < same then rise old new n (s.passUp last above same)
            else if last.length = 0 then rise old new n ⟨above, s.edit, s.below⟩
            else s
          else if last.action = s.edit.action then
            rise old new n ⟨above, last.longer s.edit.length, s.below⟩
          else rise old new n ⟨above, s.edit, last :: s.below⟩

/-- Moves the edit down as far as it goes; the number bounds the moves. -/
def sink (old new : Array String) : Nat → Spot → Spot
  | 0, s => s
  | n + 1, s =>
      match s.below with
      | [] => s
      | next :: below =>
          if next.action = .keep then
            let same :=
              commonStart (s.edit.linesLike next old new) (s.edit.linesLike s.edit old new)
            if 0 < same then sink old new n (s.passDown next below same)
            else if next.length = 0 then sink old new n ⟨s.above, s.edit, below⟩
            else s
          else if next.action = s.edit.action then
            sink old new n ⟨s.above, s.edit.longer next.length, below⟩
          else sink old new n ⟨next :: s.above, s.edit, below⟩

end Spot

/-- The edits with those of one kind moved, in turn; the first number bounds the edits gone
through, and `above` holds those done, the last first. -/
def settle (old new : Array String) (action : Action) (moves : Nat) :
    Nat → List Edit → List Edit → List Edit
  | 0, above, below => above.reverse ++ below
  | _, above, [] => above.reverse
  | n + 1, above, e :: below =>
      if e.action = action then
        let s := Spot.sink old new moves (Spot.rise old new moves ⟨above, e, below⟩)
        settle old new action moves n (s.edit :: s.above) s.below
      else settle old new action moves n (e :: above) below

/-- The script with removals and then additions moved together. -/
def compact (old new : Array String) (edits : List Edit) : List Edit :=
  let size := old.size + new.size + edits.length + 2
  let removalsMoved := settle old new .remove (2 * size) (size * size) [] edits
  settle old new .add (2 * size) (size * size) [] removalsMoved

end Mutagenesis.Diff
