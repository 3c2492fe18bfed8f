import Mutagenesis.Syntax.Rule
import Mutagenesis.Text.Identifier
import Mutagenesis.Text.Decimal

/-!
# The layout of Python sources

Lines and indentation carry the structure. Within brackets, and where an operand is missing, a line
end is a blank; elsewhere it ends the statement. A block goes on as long as lines are indented at
least as far as its first one, and a line that is indented less ends it.
-/
namespace Mutagenesis.Syntax.Python

/-- Where a rule is read: the column of the current block, and whether line ends are blanks. -/
structure Layout where
  block : Nat
  joined : Bool

/-- Where the next token stands: on the same line, on a later one at some column, or nowhere. -/
inductive Upcoming where
  | sameLine
  | newLine (column : Nat)
  | ended
  deriving DecidableEq

/-- The characters of a gap that is no comment: blanks, and a backslash before a line end. The
line end itself is a gap only where lines are joined. -/
def blank? (joined : Bool) : List Char → Option Nat
  | '\\' :: '\n' :: _ => some 2
  | '\\' :: '\r' :: '\n' :: _ => some 3
  | c :: _ =>
      if c = ' ' || c = '\t' || c = '\r' || c.toNat = 0x0c || c.toNat = 0xFEFF ||
          (joined && c = '\n') then some 1
      else none
  | [] => none

/-- The gaps at the head of a text; the number bounds them. -/
def gapsWithin (joined : Bool) : Nat → List Char → List Gap
  | 0, _ => []
  | n + 1, cs =>
      match blank? joined cs with
      | some k => ⟨false, k⟩ :: gapsWithin joined n (cs.drop k)
      | none =>
          if cs.head? = some '#' then
            let k := (cs.takeWhile (· ≠ '\n')).length
            ⟨true, k⟩ :: gapsWithin joined n (cs.drop k)
          else []

def gaps (layout : Layout) (cs : List Char) : List Gap := gapsWithin layout.joined cs.length cs

/-- The place of the next token, with the columns counted since the last line end: a tab counts
eight. The number bounds the characters passed over. -/
def upcomingFrom : Nat → Bool → Nat → List Char → Upcoming
  | 0, _, _, _ => .ended
  | n + 1, isNew, column, cs =>
      match cs with
      | [] => .ended
      | '\n' :: rest => upcomingFrom n true 0 rest
      | ' ' :: rest => upcomingFrom n isNew (column + 1) rest
      | '\t' :: rest => upcomingFrom n isNew (column + 8) rest
      | '\r' :: rest => upcomingFrom n isNew 0 rest
      | '\\' :: '\n' :: rest | '\\' :: '\r' :: '\n' :: rest => upcomingFrom n isNew column rest
      | '#' :: rest => upcomingFrom n isNew 0 (rest.dropWhile (· ≠ '\n'))
      | c :: rest =>
          if c.toNat = 0x0c then upcomingFrom n isNew 0 rest
          else if c.toNat = 0xFEFF then upcomingFrom n isNew column rest
          else if isNew then .newLine column
          else .sameLine

/-- The place of the next token after a token. -/
def upcoming (cs : List Char) : Upcoming := upcomingFrom (cs.length + 1) false 0 cs

/-- At a line of the current block: the layout in which the gaps before it are passed over. -/
def inBlock (layout : Layout) (cs : List Char) : Option Layout :=
  match upcoming cs with
  | .newLine column =>
      if layout.block ≤ column then some { layout with joined := true } else none
  | .sameLine | .ended => none

/-- At a statement of the current block, which at the head of a source may stand on the same
line. -/
def atStatement (layout : Layout) (cs : List Char) : Option Layout :=
  if upcoming cs = .sameLine then some layout else inBlock layout cs

/-- At the first line of a deeper block: its layout. -/
def deeper (layout : Layout) (cs : List Char) : Option Layout :=
  match upcoming cs with
  | .newLine column => if layout.block < column then some ⟨column, false⟩ else none
  | .sameLine | .ended => none

/-- Whether a statement may end here. -/
def endsLine (cs : List Char) : Bool := upcoming cs ≠ .sameLine

end Mutagenesis.Syntax.Python
