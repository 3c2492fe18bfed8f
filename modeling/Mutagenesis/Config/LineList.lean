import Mutagenesis.Config.Fault
import Mutagenesis.Text.Characters

/-!
# Lists of line numbers

Line numbers between commas, as the command line takes them. Blank items do not count; every other
one must be a positive number of at most sixty-four bits, and the first that is not is the fault.
-/
namespace Mutagenesis.Config

/-- The items between the commas, trimmed, without the blank ones. -/
def lineItems (text : String) : List (List Char) :=
  ((Text.splitOn ',' text.toList).map Text.trim).filter (!·.isEmpty)

/-- The line number that an item writes. -/
def lineNumber? (item : List Char) : Option Nat :=
  (Text.unsigned? 0xFFFFFFFFFFFFFFFF item).bind fun n => if n = 0 then none else some n

/-- The line number of an item, or its fault. -/
def readLine (item : List Char) : Except Fault Nat :=
  match lineNumber? item with
  | some n => .ok n
  | none => .error (.badLine (String.ofList item))

/-- The line numbers of a list. -/
def parseLines (text : String) : Except Fault (List Nat) := (lineItems text).mapM readLine

end Mutagenesis.Config
