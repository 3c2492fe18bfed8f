import Mutagenesis.Config.Basic
import Mutagenesis.Config.Fault
import Mutagenesis.Glob.Compile

/-!
# Checking a configuration

Refuses what a run cannot honour. The checks are made in a fixed order and the first that fails is
the fault.
-/
namespace Mutagenesis.Config

/-- The patterns of a glob. -/
def compileGlob (glob : String) : Except Fault (List Glob.Pattern) :=
  (Glob.compile glob).mapError (.badGlob glob)

/-- The fault of the filters on fragments. -/
def filterFault? (c : Config) : Option Fault :=
  if c.mutateOnly = some "" then some .emptyMutateOnly
  else match c.mutateOnlyLines with
    | some [] => some .emptyMutateOnlyLines
    | some lines => if lines.contains 0 then some (.badLine "0") else none
    | none => none

/-- The fault of the parameters other than the globs. -/
def parameterFault? (c : Config) : Option Fault :=
  if c.nrAttempts = 0 then some .noAttempts
  else if c.maxLinesInPlaceholder = 0 then some .noPlaceholderLines
  else if c.maxTokens = 0 then some .noTokens
  else if !c.temperature.inUnitRange 2 then some (.temperature c.temperature)
  else c.filterFault?

/-- Accepts a configuration that a run can honour. -/
def validate (c : Config) : Except Fault Unit :=
  match c.parameterFault? with
  | some fault => .error fault
  | none => do
      discard (compileGlob c.mutate)
      discard (compileGlob c.ignore)

theorem parameterFault?_of_validate {c : Config} (h : c.validate = .ok ()) :
    c.parameterFault? = none := by
  unfold validate at h
  split at h
  next => simp at h
  next none_found => exact none_found

end Mutagenesis.Config
