import Mutagenesis.Text.Decimal

/-!
# Patterns of paths

A pattern without braces. A star stands for characters of one name, two stars that fill a name of
their own for any names, a question mark for one character, and a class in brackets for one of its
characters; a class never stands for a slash. `Pattern.compile` reads a pattern and `matchesAll`
says whether the tokens account for a whole path.
-/
namespace Mutagenesis.Glob

/-- The characters from `low` to `high`. -/
structure CharRange where
  low : Char
  high : Char
  deriving DecidableEq, Repr

/-- A part of a pattern. -/
inductive Token where
  | char (c : Char)
  | anyChar
  | oneOf (ranges : List CharRange)
  | noneOf (ranges : List CharRange)
  /-- Any characters of one name. -/
  | star
  /-- Any number of names, each with the slash after it, or all that is left. -/
  | names
  deriving DecidableEq, Repr

/-- What makes a text no pattern. -/
inductive PatternCause where
  | tooManyStars
  | starsWithinName
  | badClass
  deriving DecidableEq, Repr

/-- A cause and the number of characters before the place where it was noticed. -/
structure PatternFault where
  cause : PatternCause
  position : Nat
  deriving DecidableEq, Repr

def PatternCause.message : PatternCause → String
  | tooManyStars => "wildcards are either regular `*` or recursive `**`"
  | starsWithinName => "recursive wildcards must form a single path component"
  | badClass => "invalid range pattern"

def PatternFault.message (f : PatternFault) : String :=
  "Pattern syntax error near position " ++ String.ofList (Text.numeral f.position) ++ ": " ++
    f.cause.message

/-- The ranges of a class: two characters with a hyphen between them, or one character. -/
def ranges : List Char → List CharRange
  | a :: '-' :: b :: cs => ⟨a, b⟩ :: ranges cs
  | c :: cs => ⟨c, c⟩ :: ranges cs
  | [] => []

/-- The characters of a class and the text after its bracket. The first character belongs to the
class even if it is a bracket. -/
def classBody? : List Char → Option (List Char × List Char)
  | [] => none
  | first :: cs =>
      match cs.dropWhile (· ≠ ']') with
      | [] => none
      | _ :: rest => some (first :: cs.takeWhile (· ≠ ']'), rest)

theorem length_of_classBody? {cs inside rest : List Char}
    (h : classBody? cs = some (inside, rest)) : rest.length < cs.length := by
  cases cs with
  | nil => simp [classBody?] at h
  | cons c cs =>
      simp only [classBody?] at h
      split at h
      · simp at h
      · rename_i x r hr
        simp only [Option.some.injEq, Prod.mk.injEq] at h
        have := (List.dropWhile_sublist (l := cs) (fun c : Char => decide (c ≠ ']'))).length_le
        rw [hr, List.length_cons] at this
        simp only [List.length_cons, ← h.2]
        omega

/-- What a run of stars is, and how much of the text it takes. `index` counts the characters
before the run and `fills` says that no part of a name does. -/
def starsToken (index : Nat) (fills : Bool) (count : Nat) (rest : List Char) :
    Except PatternFault (Token × Nat) :=
  if 2 < count then .error ⟨.tooManyStars, index + 2⟩
  else if count < 2 then .ok (.star, count)
  else if !fills then .error ⟨.starsWithinName, index - 1⟩
  else match rest with
    | [] => .ok (.names, count)
    | c :: _ =>
        if c = '/' then .ok (.names, count + 1) else .error ⟨.starsWithinName, index + count⟩

/-- The tokens of a text. `index` counts the characters before it, and `fills` says that a name
begins here. -/
def tokensFrom (index : Nat) (fills : Bool) (cs : List Char) : Except PatternFault (List Token) :=
  match cs with
  | [] => .ok []
  | '?' :: rest => (tokensFrom (index + 1) false rest).map (.anyChar :: ·)
  | '*' :: rest =>
      let count := 1 + (rest.takeWhile (· = '*')).length
      match starsToken index fills count (rest.dropWhile (· = '*')) with
      | .error f => .error f
      | .ok (token, taken) =>
          (tokensFrom (index + taken) (count < taken) (rest.drop (taken - 1))).map (token :: ·)
  | '[' :: '!' :: rest =>
      match _h : classBody? rest with
      | none => .error ⟨.badClass, index⟩
      | some (inside, after) =>
          (tokensFrom (index + inside.length + 3) false after).map (.noneOf (ranges inside) :: ·)
  | '[' :: rest =>
      match _h : classBody? rest with
      | none => .error ⟨.badClass, index⟩
      | some (inside, after) =>
          (tokensFrom (index + inside.length + 2) false after).map (.oneOf (ranges inside) :: ·)
  | c :: rest => (tokensFrom (index + 1) (c = '/') rest).map (.char c :: ·)
termination_by cs.length
decreasing_by
  all_goals simp only [List.length_cons, List.length_drop]
  any_goals omega
  all_goals
    have shorter := length_of_classBody? _h
    omega

/-- A pattern and the text it was read from. -/
structure Pattern where
  text : String
  tokens : List Token
  deriving DecidableEq, Repr

namespace Pattern

def compile (text : String) : Except PatternFault Pattern :=
  (tokensFrom 0 true text.toList).map fun tokens => ⟨text, tokens⟩

end Pattern

/-- Whether some prefix of the text within one name can be left out so that the rest is
accepted. -/
def afterStar (accepts : List Char → Bool) : List Char → Bool
  | [] => accepts []
  | c :: cs => accepts (c :: cs) || (c ≠ '/' && afterStar accepts cs)

/-- Whether some names and their slashes can be left out, or all of the text, so that the rest is
accepted. -/
def afterNames (accepts : List Char → Bool) : List Char → Bool
  | [] => accepts []
  | c :: cs => (c = '/' && accepts cs) || afterNames accepts cs

def inClass (ranges : List CharRange) (c : Char) : Bool :=
  ranges.any fun r => r.low ≤ c && c ≤ r.high

/-- Whether the tokens account for the whole text. -/
def matchesAll : List Token → List Char → Bool
  | [], cs => cs.isEmpty
  | .star :: ts, cs => afterStar (matchesAll ts) cs
  | .names :: ts, cs => matchesAll ts cs || afterNames (matchesAll ts) cs
  | .char c :: ts, d :: cs => c = d && matchesAll ts cs
  | .anyChar :: ts, d :: cs => d ≠ '/' && matchesAll ts cs
  | .oneOf rs :: ts, d :: cs => d ≠ '/' && inClass rs d && matchesAll ts cs
  | .noneOf rs :: ts, d :: cs => d ≠ '/' && !inClass rs d && matchesAll ts cs
  | _ :: _, [] => false

namespace Pattern

/-- Whether the pattern accounts for the whole path. -/
def accepts (p : Pattern) (path : String) : Bool := matchesAll p.tokens path.toList

end Pattern

end Mutagenesis.Glob
