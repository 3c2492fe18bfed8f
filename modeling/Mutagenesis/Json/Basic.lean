import Mutagenesis.Number.Text

/-!
# JSON values and their text

The values that the program writes, and the two texts of a value: the compact one on a single line
and the wide one with every item and member on a line of its own. Members stand in the order in
which the value lists them. A string escapes the quote, the backslash and the control characters
and shows every other character as it is.
-/
namespace Mutagenesis

/-- A JSON value. -/
inductive Json where
  | null
  | bool (b : Bool)
  | int (n : Int)
  | float (x : Binary64)
  | str (s : String)
  | arr (items : List Json)
  | obj (members : List (String × Json))
  deriving Inhabited, Repr

namespace Json

def nat (n : Nat) : Json := int n

def strs (items : List String) : Json := arr (items.map str)

/-- How one character stands in a string. -/
def escaped (c : Char) : List Char :=
  if c = '\x22' then ['\\', '\x22']
  else if c = '\\' then ['\\', '\\']
  else if c = '\x08' then ['\\', 'b']
  else if c = '\x0c' then ['\\', 'f']
  else if c = '\n' then ['\\', 'n']
  else if c = '\r' then ['\\', 'r']
  else if c = '\t' then ['\\', 't']
  else if c.toNat < 0x20 then
    ['\\', 'u', '0', '0', Text.digitChar (c.toNat / 16), Text.digitChar (c.toNat % 16)]
  else [c]

/-- A string between quotes. -/
def stringText (s : String) : List Char :=
  '\x22' :: s.toList.flatMap escaped ++ ['\x22']

def intText (n : Int) : List Char :=
  if n < 0 then '-' :: Text.numeral n.natAbs else Text.numeral n.natAbs

/-- The text of a value without parts. -/
def leafText : Json → List Char
  | null => "null".toList
  | bool true => "true".toList
  | bool false => "false".toList
  | int n => intText n
  | float x => x.dataText
  | str s => stringText s
  | arr _ => ['[', ']']
  | obj _ => ['\x7b', '\x7d']

mutual

/-- The text on a single line. -/
def compact : Json → List Char
  | arr items => '[' :: compactItems items ++ [']']
  | obj members => '\x7b' :: compactMembers members ++ ['\x7d']
  | leaf => leafText leaf

def compactItems : List Json → List Char
  | [] => []
  | [v] => compact v
  | v :: w :: rest => compact v ++ ',' :: compactItems (w :: rest)

def compactMembers : List (String × Json) → List Char
  | [] => []
  | [(name, v)] => stringText name ++ ':' :: compact v
  | (name, v) :: m :: rest => stringText name ++ ':' :: compact v ++ ',' :: compactMembers (m :: rest)

end

/-- A line end and the indentation at a depth: two blanks for each level. -/
def lineAt (depth : Nat) : List Char := '\n' :: List.replicate (2 * depth) ' '

mutual

/-- The text with a line for every item and member, its parts indented at the depth. -/
def wide (depth : Nat) : Json → List Char
  | arr [] => ['[', ']']
  | arr (v :: items) => '[' :: wideItems (depth + 1) (v :: items) ++ lineAt depth ++ [']']
  | obj [] => ['\x7b', '\x7d']
  | obj (m :: members) =>
      '\x7b' :: wideMembers (depth + 1) (m :: members) ++ lineAt depth ++ ['\x7d']
  | leaf => leafText leaf

def wideItems (depth : Nat) : List Json → List Char
  | [] => []
  | [v] => lineAt depth ++ wide depth v
  | v :: w :: rest => lineAt depth ++ wide depth v ++ ',' :: wideItems depth (w :: rest)

def wideMembers (depth : Nat) : List (String × Json) → List Char
  | [] => []
  | [(name, v)] => lineAt depth ++ stringText name ++ ':' :: ' ' :: wide depth v
  | (name, v) :: m :: rest =>
      lineAt depth ++ stringText name ++ ':' :: ' ' :: wide depth v ++
        ',' :: wideMembers depth (m :: rest)

end

/-- The compact text as a string. -/
def line (v : Json) : String := String.ofList v.compact

/-- The wide text as a string. -/
def page (v : Json) : String := String.ofList (v.wide 0)

end Json

end Mutagenesis
