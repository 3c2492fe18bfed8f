import Mutagenesis.Prompt.Template
import Mutagenesis.Syntax.Language
import Mutagenesis.Text.Characters

/-!
# Candidates

A candidate is a proposed replacement for a fragment, trimmed of blanks. It is invalid when it is
empty in place of something, takes too many lines or breaks the syntax of its file; else it may
equal the fragment or an earlier valid candidate of the same fragment; else it is valid.
-/
namespace Mutagenesis

/-- What becomes of a proposed replacement. -/
inductive Classification where
  | valid
  | invalid
  | identical
  | duplicate
  deriving DecidableEq, Repr

def Classification.name : Classification → String
  | valid => "valid"
  | invalid => "syntactically-invalid"
  | identical => "identical-to-original"
  | duplicate => "duplicate-of-candidate"

/-- A proposed replacement of a fragment. -/
structure Candidate where
  location : Location
  original : String
  replacement : String
  classification : Classification
  deriving DecidableEq, Repr

/-- Where replacements are tried: a fragment of a source, and the lines that one may take. -/
structure Site where
  language : Language
  source : String
  spec : PromptSpec
  maxLines : Nat

namespace Site

/-- Whether a trimmed replacement may stand in the source. -/
def accepts (s : Site) (replacement : String) : Bool :=
  if replacement.isEmpty && !(Text.trimmed s.spec.orig).isEmpty then false
  else if s.maxLines < (Text.lines replacement.toList).length then false
  else match splice s.source s.spec.location replacement with
    | some mutated => s.language.isValid mutated
    | none => false

/-- The candidate of a trimmed replacement. -/
def candidate (s : Site) (replacement : String) (c : Classification) : Candidate where
  location := s.spec.location
  original := s.spec.orig
  replacement := replacement
  classification := c

/-- The class of a trimmed replacement after the valid ones seen so far. -/
def classOf (s : Site) (seen : List String) (replacement : String) : Classification :=
  if !s.accepts replacement then .invalid
  else if replacement = Text.trimmed s.spec.orig then .identical
  else if seen.contains replacement then .duplicate
  else .valid

/-- The candidate of a proposal, and the valid replacements seen after it. -/
def classify (s : Site) (seen : List String) (proposal : String) : Candidate × List String :=
  let replacement := Text.trimmed proposal
  let c := s.classOf seen replacement
  (s.candidate replacement c, if c = .valid then seen ++ [replacement] else seen)

/-- The candidate of a completion without a block. -/
def malformed (s : Site) (completion : String) : Candidate :=
  s.candidate (Text.trimmed completion) .invalid

/-- The candidates of proposals classified in turn. -/
def classifyAll (s : Site) (seen : List String) : List String → List Candidate × List String
  | [] => ([], seen)
  | proposal :: proposals =>
      let (c, seen) := s.classify seen proposal
      let (cs, seen) := classifyAll s seen proposals
      (c :: cs, seen)

end Site

end Mutagenesis
