import Mutagenesis.Diff.Compact
import Mutagenesis.Text.Characters

/-!
# Reports of differences

A text is compared line by line. A line ends with a line feed, a carriage return or both in this
order, and keeps its end; only the last line may have none. A report shows the lines in which two
texts differ: between two kept runs first those removed, each after `- `, then those added, each
after `+ `.
-/
namespace Mutagenesis.Diff

/-- The lines of a text after the characters, in reverse, of a line begun before it. -/
def linesFrom (begun : List Char) : List Char → List String
  | [] => if begun.isEmpty then [] else [String.ofList begun.reverse]
  | '\r' :: '\n' :: cs => String.ofList ('\n' :: '\r' :: begun).reverse :: linesFrom [] cs
  | c :: cs =>
      if c = '\r' || c = '\n' then String.ofList (c :: begun).reverse :: linesFrom [] cs
      else linesFrom (c :: begun) cs

/-- The lines of a text, each with its end. -/
def linesOf (text : String) : List String := linesFrom [] text.toList

/-- A line as it is shown: with an end of its own. -/
def ended (line : String) : String :=
  match line.toList.getLast? with
  | some '\n' | some '\r' => line
  | _ => line ++ "\n"

/-- Lines removed and lines added between two kept runs, each as its start and length. -/
structure Block where
  removed : Option (Nat × Nat)
  added : Option (Nat × Nat)

namespace Block

def none : Block := ⟨.none, .none⟩

/-- A run with more lines after it. -/
def extend (run : Option (Nat × Nat)) (start length : Nat) : Option (Nat × Nat) :=
  match run with
  | some (first, n) => some (first, n + length)
  | .none => some (start, length)

/-- The lines of a run. -/
def lines (run : Option (Nat × Nat)) (all : Array String) : List String :=
  match run with
  | some (start, n) => (all.extract start (start + n)).toList
  | .none => []

/-- The report of a block. -/
def report (b : Block) (old new : Array String) : List String :=
  (lines b.removed old).map (fun line => "- " ++ ended line) ++
    (lines b.added new).map fun line => "+ " ++ ended line

end Block

/-- The report of edits after the block begun before them. -/
def reportFrom (old new : Array String) (b : Block) : List Edit → List String
  | [] => b.report old new
  | e :: edits =>
      match e.action with
      | .keep => b.report old new ++ reportFrom old new Block.none edits
      | .remove =>
          reportFrom old new { b with removed := Block.extend b.removed e.oldStart e.length } edits
      | .add =>
          reportFrom old new { b with added := Block.extend b.added e.newStart e.length } edits

end Mutagenesis.Diff

namespace Mutagenesis

/-- The lines in which a mutated source differs from the original. -/
def diffReport (original mutated : String) : String :=
  let old := Diff.linesOf original
  let new := Diff.linesOf mutated
  let edits := Diff.compact old.toArray new.toArray (Diff.script old new)
  String.join (Diff.reportFrom old.toArray new.toArray Diff.Block.none edits)

end Mutagenesis
