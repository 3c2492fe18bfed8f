import Mutagenesis.Json.Decode
import Mutagenesis.Location

/-!
# Locations in JSON
-/
namespace Mutagenesis.Location

def toJson (l : Location) : Json :=
  .obj [("file", .str l.file), ("lineNr", .nat l.lineNr), ("startLine", .nat l.startLine),
    ("startColumn", .nat l.startColumn), ("endLine", .nat l.endLine),
    ("endColumn", .nat l.endColumn)]

/-- The fields of a location. -/
inductive Field where
  | file | lineNr | startLine | startColumn | endLine | endColumn
  deriving DecidableEq

namespace Field

abbrev Value : Field → Type
  | file => String
  | lineNr | startLine | startColumn | endLine | endColumn => Nat

def name : Field → String
  | file => "file"
  | lineNr => "lineNr"
  | startLine => "startLine"
  | startColumn => "startColumn"
  | endLine => "endLine"
  | endColumn => "endColumn"

def decoder : (f : Field) → Json.Decoder f.Value
  | file => Json.string
  | lineNr | startLine | startColumn | endLine | endColumn => Json.count

end Field

def shape : Json.Shape where
  Field := Field
  Value := Field.Value
  title := "struct Location"
  fields := [.file, .lineNr, .startLine, .startColumn, .endLine, .endColumn]
  name := Field.name
  decoder := Field.decoder
  fallback _ := none

def decoder : Json.Decoder Location := fun v => do
  let d ← shape.draft v
  let file ← shape.need d Field.file
  let lineNr ← shape.need d Field.lineNr
  let startLine ← shape.need d Field.startLine
  let startColumn ← shape.need d Field.startColumn
  let endLine ← shape.need d Field.endLine
  let endColumn ← shape.need d Field.endColumn
  return { file, lineNr, startLine, startColumn, endLine, endColumn }

end Mutagenesis.Location
