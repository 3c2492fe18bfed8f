import Mutagenesis.Files.Access
import Mutagenesis.Mutant.Basic
import Mutagenesis.Run.Record
import Mutagenesis.Run.Summary

/-!
# What a run leaves behind

The output folder of a run holds its mutants, its summary and a record of every prompt that was
sent. The summary is written last, so a folder with a summary tells of a run that came to its end.
-/
namespace Mutagenesis

open Files (World)

/-- Why what a run leaves behind could not be written or read. -/
inductive ArtifactFault where
  | files (path : Path) (fault : Files.Fault)
  | json (path : Path) (text : String) (fault : Json.Fault)
  deriving DecidableEq, Repr

def ArtifactFault.message : ArtifactFault → String
  | files path fault => path.shown ++ ": " ++ fault.message
  | json path text fault => path.shown ++ ": " ++ fault.message text.toList

namespace Artifacts

def mutantsName : String := "mutants.json"

def summaryName : String := "summary.json"

def promptsName : String := "prompts"

def mutantsPath (folder : Path) : Path := folder.join (.ofString mutantsName)

def summaryPath (folder : Path) : Path := folder.join (.ofString summaryName)

def promptsPath (folder : Path) : Path := folder.join (.ofString promptsName)

/-- Where the record of a prompt is kept. -/
def recordPath (folder : Path) (id : Nat) : Path :=
  (promptsPath folder).join
    (.ofString ("prompt" ++ String.ofList (Text.numeral id) ++ ".json"))

/-- Writes a value to a file, whose folder is made where there is none. -/
def writeJson (w : World) (path : Path) (v : Json) : Except ArtifactFault Unit × World :=
  let folder := path.parent?.getD ⟨[]⟩
  match w.makeFolders folder with
  | (.error fault, w) => (.error (.files folder fault), w)
  | (.ok (), w) =>
      match w.write path (Text.bytes v.page) with
      | .error fault => (.error (.files path fault), w)
      | .ok w => (.ok (), w)

/-- Reads a value from a file. -/
def readJson {α : Type} (w : World) (path : Path) (d : Json.Decoder α) : Except ArtifactFault α :=
  match w.readText path with
  | .error fault => .error (.files path fault)
  | .ok text => (Json.decode d text).mapError (.json path text)

def saveMutants (w : World) (folder : Path) (ms : List Mutant) :
    Except ArtifactFault Unit × World :=
  writeJson w (mutantsPath folder) (.arr (ms.map Mutant.toJson))

def saveSummary (w : World) (folder : Path) (s : RunSummary) :
    Except ArtifactFault Unit × World :=
  writeJson w (summaryPath folder) s.toJson

def saveRecord (w : World) (folder : Path) (r : PromptRecord) :
    Except ArtifactFault Unit × World :=
  writeJson w (recordPath folder r.id) r.toJson

def loadMutants (w : World) (folder : Path) : Except ArtifactFault (List Mutant) :=
  readJson w (mutantsPath folder) (Json.listOf Mutant.decoder)

def loadSummary (w : World) (folder : Path) : Except ArtifactFault RunSummary :=
  readJson w (summaryPath folder) RunSummary.decoder

/-- Whether a name is that of a record. -/
def isRecordName (name : Bytes) : Bool :=
  (Path.mk name).extension? = some (Text.bytes "json")

/-- The records of a folder, by their numbers. Where there is no folder for them, no prompt was
sent. -/
def loadRecords (w : World) (folder : Path) : Except ArtifactFault (List PromptRecord) :=
  let prompts := promptsPath folder
  match w.list prompts with
  | .error .missing => .ok []
  | .error fault => .error (.files prompts fault)
  | .ok names => do
      let records ← (names.filter isRecordName).mapM fun name =>
        readJson w (prompts.join ⟨name⟩) PromptRecord.decoder
      return records.mergeSort fun a b => decide (a.id ≤ b.id)

/-- Removes a file if there is one. -/
def removeIfPresent (w : World) (path : Path) : Except ArtifactFault World :=
  if w.isPresent path then (w.removeFile path).mapError (.files path) else .ok w

/-- Removes the records of a folder. -/
def removeRecords (w : World) (folder : Path) : Except ArtifactFault World :=
  match w.removeTree (promptsPath folder) with
  | .ok w => .ok w
  | .error .missing => .ok w
  | .error fault => .error (.files (promptsPath folder) fault)

/-- Removes what an earlier run has left behind, so that none of it is taken for this run's. -/
def clear (w : World) (folder : Path) : Except ArtifactFault Unit × World :=
  match removeRecords w folder with
  | .error fault => (.error fault, w)
  | .ok w =>
      match removeIfPresent w (mutantsPath folder) with
      | .error fault => (.error fault, w)
      | .ok w =>
          match removeIfPresent w (summaryPath folder) with
          | .error fault => (.error fault, w)
          | .ok w => (.ok (), w)

end Artifacts

end Mutagenesis
