import Mutagenesis.Command.Run
import Mutagenesis.Model.Endpoint

/-!
# The program

Reads the files below the working folder into a world, carries out the command line there and
changes the files to what they are in the world after it. Folders that hold nothing of a package or
a run are not read. There is no way out to a network here, so every request of a live model fails.
-/
namespace Mutagenesis

open Files (Address Entry World)

/-- The names of folders that are not read. -/
def unreadNames : List String := [".git", ".hg", ".svn", "node_modules", ".venv", "venv"]

/-- Reads an entry of a folder at an address and, below it, all there is. -/
partial def readEntry (entry : IO.FS.DirEntry) (folder : Address) (w : World) : IO World := do
  let here := Text.bytes entry.fileName :: folder
  match (← entry.path.symlinkMetadata).type with
  | .file => return w.put here (.file (← IO.FS.readBinFile entry.path).toList)
  | .symlink =>
      let target := (← (IO.FS.realPath entry.path).toBaseIO).toOption
      return match target with
        | some target => w.put here (.link (.ofString target.toString))
        | none => w
  | .dir =>
      let w := w.put here .folder
      if unreadNames.contains entry.fileName then return w
      (← entry.path.readDir).foldlM (fun w entry => readEntry entry here w) w
  | .other => return w

/-- The names on the way to a folder, the last one first. -/
def addressOf (folder : String) : Address :=
  ((Files.pieces (Text.bytes folder)).filter (· ≠ [])).reverse

/-- The world with folders at an address and above it. -/
def withFolders (w : World) : Address → World
  | [] => w
  | name :: above => (withFolders w above).put (name :: above) .folder

/-- Reads the world below the working folder. -/
def readWorld : IO World := do
  let here ← IO.currentDir
  let home := addressOf here.toString
  let w := withFolders ⟨[], home⟩ home
  (← here.readDir).foldlM (fun w entry => readEntry entry home w) w

/-- The path of an address. -/
def pathOf (a : Address) : String := "/" ++ Text.ofBytesLossy (Files.joined a.reverse)

/-- Removes what is gone. -/
def removeGone (before after : World) : IO Unit :=
  for (a, entry) in before.entries do
    if after.get? a ≠ some entry then
      -- A folder that is gone has taken what was below it along.
      match entry with
      | .folder =>
          if (after.get? a).isNone then discard (IO.FS.removeDirAll (pathOf a)).toBaseIO
      | _ => discard (IO.FS.removeFile (pathOf a)).toBaseIO

/-- Makes what is new. -/
def makeNew (before after : World) : IO Unit :=
  for (a, entry) in after.entries do
    if before.get? a ≠ some entry then
      match entry with
      | .folder => IO.FS.createDirAll (pathOf a)
      | .file content =>
          IO.FS.createDirAll (pathOf a.tail)
          IO.FS.writeBinFile (pathOf a) ⟨content.toArray⟩
      | .link _ => pure ()

/-- The variables of the environment that count. -/
def environmentNames : List String :=
  endpointVariable :: headersVariable :: Command.generateRules.filterMap (·.fromEnv)

/-- An exchange that brings nothing back. -/
def noNetwork : Exchange Unit := fun _ _ s => (none, 0, s)

end Mutagenesis

open Mutagenesis in
/-- Carries out a command line. -/
def main (args : List String) : IO UInt32 := do
  let env ← environmentNames.filterMapM fun name => do
    return (← IO.getEnv name).map fun value => (name, value)
  let before ← readWorld
  let (ending, after, _) :=
    Command.run args ⟨env, Transport.http [] noNetwork, []⟩ (before, ())
  removeGone before after
  makeNew before after
  for line in ending.output do
    IO.println line
  if let some fault := ending.fault then
    IO.eprintln ("✗ " ++ fault)
  return UInt32.ofNat ending.code
