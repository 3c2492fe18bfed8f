import Mutagenesis.Text.Utf8

/-!
# Paths

A path is written as names between slashes. Its components leave out what makes no difference to
where it leads: doubled and closing slashes, and single dots other than one that begins a relative
path. Two dots stay, for what they mean depends on the files there.
-/
namespace Mutagenesis

/-- A path as it is written. -/
structure Path where
  bytes : Bytes
  deriving DecidableEq, Repr

namespace Files

/-- A component of a path. -/
inductive Component where
  | root
  | here
  | up
  | name (bytes : Bytes)
  deriving DecidableEq, Repr

def slash : UInt8 := 0x2F

def dot : UInt8 := 0x2E

/-- The pieces between slashes, one more than there are slashes. -/
def pieces : Bytes → List Bytes
  | [] => [[]]
  | b :: bs =>
      if b = slash then [] :: pieces bs
      else match pieces bs with
        | [] => [[b]]
        | piece :: more => (b :: piece) :: more

/-- Pieces with a slash between each two. -/
def joined : List Bytes → Bytes
  | [] => []
  | [piece] => piece
  | piece :: more => piece ++ slash :: joined more

/-- Whether a piece makes no difference: it is empty or a single dot. -/
def isIdle (piece : Bytes) : Bool := piece = [] || piece = [dot]

def isUp (piece : Bytes) : Bool := piece = [dot, dot]

/-- The name before its last dot and what follows it. A name has no extension when its only dot
begins it. -/
def splitExtension? (name : Bytes) : Option (Bytes × Bytes) :=
  let ending := (name.reverse.takeWhile (· ≠ dot)).reverse
  let stem := name.take (name.length - ending.length - 1)
  if stem = [] then none else some (stem, ending)

end Files

namespace Path

open Files

def ofString (s : String) : Path := ⟨Text.bytes s⟩

/-- The path as a text, if it is one. -/
def text? (p : Path) : Option String := Text.ofBytes? p.bytes

/-- The path as messages show it. -/
def shown (p : Path) : String := Text.ofBytesLossy p.bytes

def isAbsolute (p : Path) : Bool := p.bytes.head? = some slash

/-- What stands before the first name: the slash of an absolute path, or a single dot that begins
a relative one. -/
def lead (p : Path) : Bytes :=
  match p.bytes with
  | b :: rest =>
      if b = slash then [b]
      else if b = dot && (rest = [] || rest.head? = some slash) then [b]
      else []
  | [] => []

/-- The pieces after the lead. -/
def body (p : Path) : List Bytes := pieces (p.bytes.drop p.lead.length)

def components (p : Path) : List Component :=
  let first := match p.lead with
    | [] => []
    | b :: _ => [if b = slash then .root else .here]
  first ++ (p.body.filter (!isIdle ·)).map fun piece => if isUp piece then .up else .name piece

/-- The last name, unless the path ends in two dots or has none. -/
def fileName? (p : Path) : Option Bytes :=
  match p.components.getLast? with
  | some (.name bytes) => some bytes
  | _ => none

/-- What follows the last dot of the last name. -/
def extension? (p : Path) : Option Bytes :=
  (p.fileName?.bind splitExtension?).map (·.2)

/-- The path that the second one names when it starts from the first. -/
def join (p q : Path) : Path :=
  if q.isAbsolute || p.bytes = [] then q
  else if p.bytes.getLast? = some slash then ⟨p.bytes ++ q.bytes⟩
  else ⟨p.bytes ++ slash :: q.bytes⟩

/-- Without the pieces at the end that make no difference. -/
def trimIdle (body : List Bytes) : List Bytes := (body.reverse.dropWhile isIdle).reverse

/-- The path without its last component. -/
def parent? (p : Path) : Option Path :=
  match (trimIdle p.body).reverse with
  | _ :: before => some ⟨p.lead ++ joined (trimIdle before.reverse)⟩
  | [] => if p.lead = [dot] then some ⟨[]⟩ else none

/-- Whether two paths have the same components. -/
def same (p q : Path) : Bool := p.components = q.components

end Path

end Mutagenesis
