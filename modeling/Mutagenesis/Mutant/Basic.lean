import Mutagenesis.Json.Decode
import Mutagenesis.Mutant.Candidate

/-!
# Mutants

A mutant is a valid candidate as it is handed on: a location, the code there, the code to put in
its place, and the number of the prompt it came from.
-/
namespace Mutagenesis

/-- A change of a source file. -/
structure Mutant where
  file : String
  lineNr : Nat
  startLine : Nat
  startColumn : Nat
  endLine : Nat
  endColumn : Nat
  originalCode : String
  replacement : String
  promptId : Nat
  deriving DecidableEq, Repr

namespace Mutant

def ofCandidate (c : Candidate) (promptId : Nat) : Mutant where
  file := c.location.file
  lineNr := c.location.lineNr
  startLine := c.location.startLine
  startColumn := c.location.startColumn
  endLine := c.location.endLine
  endColumn := c.location.endColumn
  originalCode := c.original
  replacement := c.replacement
  promptId := promptId

def location (m : Mutant) : Location where
  file := m.file
  lineNr := m.lineNr
  startLine := m.startLine
  startColumn := m.startColumn
  endLine := m.endLine
  endColumn := m.endColumn

def toJson (m : Mutant) : Json :=
  .obj [("file", .str m.file), ("lineNr", .nat m.lineNr), ("startLine", .nat m.startLine),
    ("startColumn", .nat m.startColumn), ("endLine", .nat m.endLine),
    ("endColumn", .nat m.endColumn), ("originalCode", .str m.originalCode),
    ("replacement", .str m.replacement), ("promptId", .nat m.promptId)]

/-- The fields of a mutant. -/
inductive Field where
  | file | lineNr | startLine | startColumn | endLine | endColumn | originalCode | replacement
  | promptId
  deriving DecidableEq

namespace Field

abbrev Value : Field → Type
  | file | originalCode | replacement => String
  | lineNr | startLine | startColumn | endLine | endColumn | promptId => Nat

def name : Field → String
  | file => "file"
  | lineNr => "lineNr"
  | startLine => "startLine"
  | startColumn => "startColumn"
  | endLine => "endLine"
  | endColumn => "endColumn"
  | originalCode => "originalCode"
  | replacement => "replacement"
  | promptId => "promptId"

def decoder : (f : Field) → Json.Decoder f.Value
  | file | originalCode | replacement => Json.string
  | lineNr | startLine | startColumn | endLine | endColumn => Json.count
  | promptId => Json.u64

def all : List Field :=
  [file, lineNr, startLine, startColumn, endLine, endColumn, originalCode, replacement, promptId]

end Field

def shape : Json.Shape where
  Field := Field
  Value := Field.Value
  title := "struct Mutant"
  fields := Field.all
  name := Field.name
  decoder := Field.decoder
  fallback _ := none

def decoder : Json.Decoder Mutant := fun v => do
  let d ← shape.draft v
  let file ← shape.need d Field.file
  let lineNr ← shape.need d Field.lineNr
  let startLine ← shape.need d Field.startLine
  let startColumn ← shape.need d Field.startColumn
  let endLine ← shape.need d Field.endLine
  let endColumn ← shape.need d Field.endColumn
  let originalCode ← shape.need d Field.originalCode
  let replacement ← shape.need d Field.replacement
  let promptId ← shape.need d Field.promptId
  return { file, lineNr, startLine, startColumn, endLine, endColumn, originalCode, replacement,
           promptId }

end Mutant

end Mutagenesis
