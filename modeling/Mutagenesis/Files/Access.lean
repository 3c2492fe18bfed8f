import Mutagenesis.Files.Resolve

/-!
# Operations on files

What can be done with files by their paths. Operations that look give a value, and operations that
change something in one step give the next world, or a fault when nothing has changed. Those of
several steps give the world after the last of them along with what came of it.
-/
namespace Mutagenesis

namespace Path

/-- A path and the paths above it, at most so many. -/
def ancestorsUpTo : Nat → Path → List Path
  | 0, _ => []
  | n + 1, p =>
      p :: match p.parent? with
        | some q => ancestorsUpTo n q
        | none => []

/-- A path and the paths above it, the longest first. -/
def ancestors (p : Path) : List Path := p.ancestorsUpTo (p.bytes.length + 1)

end Path

namespace Files.World

/-- The entry to which a path leads, if there is one. -/
def entryAt? (w : World) (p : Path) : Option Entry :=
  (w.locate true p).toOption.bind w.get?

def isFolder (w : World) (p : Path) : Bool := w.entryAt? p = some .folder

/-- Whether a path leads to an entry. -/
def isPresent (w : World) (p : Path) : Bool := (w.entryAt? p).isSome

/-- The address of the entry to which a path leads. -/
def canonical? (w : World) (p : Path) : Option Address :=
  match w.locate true p with
  | .ok a => (w.get? a).map fun _ => a
  | .error _ => none

/-- The content of a file. -/
def read (w : World) (p : Path) : Except Fault Bytes := do
  match w.get? (← w.locate true p) with
  | some (.file content) => return content
  | some .folder => throw .isFolder
  | some (.link _) => throw .tooManyLinks
  | none => throw .missing

/-- The content of a file that is a text. -/
def readText (w : World) (p : Path) : Except Fault String := do
  match Text.ofBytes? (← w.read p) with
  | some text => return text
  | none => throw .notText

/-- The names in a folder. -/
def list (w : World) (p : Path) : Except Fault (List Bytes) := do
  let a ← w.locate true p
  match w.get? a with
  | some .folder => return w.names a
  | some _ => throw .notFolder
  | none => throw .missing

/-- Gives a file its content; the file is made where there is none. -/
def write (w : World) (p : Path) (content : Bytes) : Except Fault World := do
  let a ← w.locate true p
  match w.get? a with
  | some .folder => throw .isFolder
  | _ => return w.put a (.file content)

/-- Makes a folder where there is no entry. -/
def makeFolder (w : World) (p : Path) : Except Fault World := do
  let a ← w.locate false p
  match w.get? a with
  | some _ => throw .present
  | none => return w.put a .folder

/-- Makes the first folder of a list, and before it those of the rest that it needs. -/
def makeFirst (w : World) : List Path → Except Fault Unit × World
  | [] => (.ok (), w)
  | p :: above =>
      if p.bytes = [] then (.ok (), w)
      else match w.makeFolder p with
        | .ok w => (.ok (), w)
        | .error .missing =>
            match makeFirst w above with
            | (.error fault, w) => (.error fault, w)
            | (.ok (), w) =>
                match w.makeFolder p with
                | .ok w => (.ok (), w)
                | .error fault => (if w.isFolder p then .ok () else .error fault, w)
        | .error fault => (if w.isFolder p then .ok () else .error fault, w)

/-- Makes a folder and the folders above it, as far as there are none. -/
def makeFolders (w : World) (p : Path) : Except Fault Unit × World := w.makeFirst p.ancestors

/-- Removes a folder with all that lies below it; a link is removed in place of its target. -/
def removeTree (w : World) (p : Path) : Except Fault World := do
  let a ← w.locate false p
  match w.get? a with
  | some .folder => return w.eraseTree a
  | some (.file _) => throw .notFolder
  | some (.link _) => return w.erase a
  | none => throw .missing

/-- Removes a file or a link. -/
def removeFile (w : World) (p : Path) : Except Fault World := do
  let a ← w.locate false p
  match w.get? a with
  | some .folder => throw .isFolder
  | some _ => return w.erase a
  | none => throw .missing

/-- A name that is not in a folder, for it is longer than all that are. -/
def freshName (w : World) (folder : Address) : Bytes :=
  Text.bytes ".tmp" ++ List.replicate (w.names folder).flatten.length 0x78

/-- Puts a file in place of what a path names, whole or not at all: the content is written to a new
file beside it, which then takes the name. A folder is not replaced. -/
def replace (w : World) (p : Path) (content : Bytes) : Except Fault Unit × World :=
  match w.locate false p with
  | .error fault => (.error fault, w)
  | .ok [] => (.error .isFolder, w)
  | .ok (name :: folder) =>
      let draft := w.freshName folder :: folder
      let drafted := w.put draft (.file content)
      match drafted.get? (name :: folder) with
      | some .folder => (.error .isFolder, drafted.erase draft)
      | _ => (.ok (), (drafted.erase draft).put (name :: folder) (.file content))

end Files.World

end Mutagenesis
