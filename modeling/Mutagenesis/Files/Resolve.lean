import Mutagenesis.Files.World

/-!
# Where a path leads

A path is followed name by name, from the root or from the world's home. Every name but the last
must be that of a folder or of a link to one; the last name may be free, and then the address says
where an entry would be made. Links are replaced by their targets, at most `linkLimit` of them for
one path. A path that leads nowhere has a fault; most faults carry the number by which the system
knows them.
-/
namespace Mutagenesis.Files

/-- Why an operation on files failed. -/
inductive Fault where
  | missing
  | present
  | notFolder
  | isFolder
  | nameTooLong
  | tooManyLinks
  /-- A path with a zero byte names nothing. -/
  | zeroByte
  /-- The content of a file that is no text. -/
  | notText
  deriving DecidableEq, Repr

def Fault.message : Fault → String
  | missing => "No such file or directory (os error 2)"
  | present => "File exists (os error 17)"
  | notFolder => "Not a directory (os error 20)"
  | isFolder => "Is a directory (os error 21)"
  | nameTooLong => "File name too long (os error 36)"
  | tooManyLinks => "Too many levels of symbolic links (os error 40)"
  | zeroByte => "file name contained an unexpected NUL byte"
  | notText => "stream did not contain valid UTF-8"

/-- The most bytes of a name. -/
def nameLimit : Nat := 255

/-- The bytes that a path must stay below. -/
def pathLimit : Nat := 4096

/-- The most links that are followed for one path. -/
def linkLimit : Nat := 40

namespace World

/-- Goes from a folder along the pieces of a path. With `follow`, a link at the end is replaced by
its target as well. `onLink` goes on from a folder along the target of a link and the pieces after
it. -/
def walk (w : World) (follow : Bool)
    (onLink : Address → Path → List Bytes → Except Fault Address) :
    Address → List Bytes → Except Fault Address
  | at', [] => .ok at'
  | at', piece :: rest =>
      if isIdle piece then walk w follow onLink at' rest
      else if isUp piece then walk w follow onLink at'.tail rest
      else if nameLimit < piece.length then .error .nameTooLong
      else match w.get? (piece :: at') with
        | none => if rest.all (·.isEmpty) then .ok (piece :: at') else .error .missing
        | some .folder => walk w follow onLink (piece :: at') rest
        | some (.file _) => if rest.isEmpty then .ok (piece :: at') else .error .notFolder
        | some (.link target) =>
            if rest.isEmpty && !follow then .ok (piece :: at') else onLink at' target rest

/-- The folder at which a path starts. -/
def start (at' : Address) (p : Path) : Address := if p.isAbsolute then [] else at'

/-- Goes on along the target of a link, through at most so many links. -/
def throughLink (w : World) (follow : Bool) :
    Nat → Address → Path → List Bytes → Except Fault Address
  | 0, _, _, _ => .error .tooManyLinks
  | n + 1, at', target, rest =>
      w.walk follow (throughLink w follow n) (start at' target) (pieces target.bytes ++ rest)

/-- The address to which a path leads. -/
def locate (w : World) (follow : Bool) (p : Path) : Except Fault Address :=
  if p.bytes.contains 0 then .error .zeroByte
  else if p.bytes = [] then .error .missing
  else if pathLimit ≤ p.bytes.length then .error .nameTooLong
  else w.walk follow (w.throughLink follow linkLimit) (start w.home p) (pieces p.bytes)

end World

end Mutagenesis.Files
