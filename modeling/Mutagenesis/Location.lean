import Mutagenesis.Text.Characters

/-!
# Locations

A location names a fragment of a file by lines and columns. Lines count from one and columns count
bytes from zero; the end is exclusive. `byteOffset` finds a line and column in a source, `splice`
replaces the fragment there and `fragment` reads it. All three refuse a location that does not fit
the source, so nothing is ever cut outside the text or inside a character.
-/
namespace Mutagenesis

open Text (byteSize cut)

/-- A fragment of a file. -/
structure Location where
  file : String
  /-- The line that reports name. -/
  lineNr : Nat
  startLine : Nat
  startColumn : Nat
  endLine : Nat
  endColumn : Nat
  deriving DecidableEq, Repr

namespace Location

/-- The fragment between two places, each a line and a column; it is reported at its first line. -/
def between (file : String) (start stop : Nat × Nat) : Location where
  file := file
  lineNr := start.1
  startLine := start.1
  startColumn := start.2
  endLine := stop.1
  endColumn := stop.2

/-- The number of lines that the fragment touches. -/
def nrLines (l : Location) : Nat := l.endLine - l.startLine + 1

def containsLine (l : Location) (line : Nat) : Bool :=
  decide (l.startLine ≤ line ∧ line ≤ l.endLine)

end Location

/-- What follows the first line feed, and the bytes up to and with it. -/
def nextLine? : List Char → Option (Nat × List Char)
  | [] => none
  | c :: cs =>
      if c = '\n' then some (1, cs)
      else (nextLine? cs).map fun (n, rest) => (c.utf8Size + n, rest)

/-- Where a line starts: the bytes before it and the text from there. Lines count from one. -/
def lineStart? : Nat → List Char → Option (Nat × List Char)
  | 0, _ => none
  | 1, cs => some (0, cs)
  | line + 2, cs =>
      (nextLine? cs).bind fun (n, rest) =>
        (lineStart? (line + 1) rest).map fun (m, rest') => (n + m, rest')

/-- The offset of a line and column: the column lies within the line, or at its end, and between
two characters. -/
def byteOffset (source : List Char) (line column : Nat) : Option Nat :=
  (lineStart? line source).bind fun (start, rest) =>
    (cut column (rest.takeWhile (· ≠ '\n'))).map fun _ => start + column

/-- The line and column of an offset between two characters. -/
def positionOf (source : List Char) (offset : Nat) : Option (Nat × Nat) :=
  (cut offset source).map fun (before, _) => Text.positionAfter before

namespace Location

/-- The offsets of the fragment's start and end, if both fit the source and are in order. -/
def byteRange (l : Location) (source : List Char) : Option (Nat × Nat) :=
  (byteOffset source l.startLine l.startColumn).bind fun start =>
    (byteOffset source l.endLine l.endColumn).bind fun stop =>
      if start ≤ stop then some (start, stop) else none

/-- The text before the fragment, the fragment and the text after it. -/
def parts (l : Location) (source : List Char) : Option (List Char × List Char × List Char) :=
  (l.byteRange source).bind fun (start, stop) =>
    (cut start source).bind fun (before, rest) =>
      (cut (stop - start) rest).map fun (fragment, after) => (before, fragment, after)

end Location

/-- The source with the fragment at the location replaced. -/
def splice (source : String) (l : Location) (replacement : String) : Option String :=
  (l.parts source.toList).map fun (before, _, after) =>
    String.ofList (before ++ replacement.toList ++ after)

/-- The text at the location. -/
def fragment (source : String) (l : Location) : Option String :=
  (l.parts source.toList).map fun (_, fragment, _) => String.ofList fragment

end Mutagenesis
