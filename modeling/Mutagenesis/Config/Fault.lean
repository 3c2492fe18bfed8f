import Mutagenesis.Glob.Pattern
import Mutagenesis.Number.Text
import Mutagenesis.Text.Quoted

/-!
# Faults of a configuration

Why a run cannot be started: a parameter out of its range, a glob that does not compile, a part of
the environment that is missing, or a file that cannot be read.
-/
namespace Mutagenesis.Config

/-- What was to be read when reading failed. -/
inductive Source where
  | endpoint
  | packageDirectory
  | sourceFile
  | template
  deriving DecidableEq, Repr

def Source.text : Source → String
  | endpoint => "endpoint"
  | packageDirectory => "package directory"
  | sourceFile => "source file"
  | template => "template"

/-- Why a run cannot be started. -/
inductive Fault where
  | noAttempts
  | noPlaceholderLines
  | noTokens
  | temperature (x : Binary64)
  | emptyMutateOnly
  | emptyMutateOnlyLines
  | badLine (text : String)
  | badGlob (glob : String) (fault : Glob.PatternFault)
  | missingVariable (name : String)
  | badHeaders (name : String)
  | unreadable (source : Source) (path reason : String)
  deriving DecidableEq, Repr

def Fault.message : Fault → String
  | noAttempts => "nrAttempts must be at least 1"
  | noPlaceholderLines => "maxLinesInPlaceHolder must be at least 1"
  | noTokens => "maxTokens must be at least 1"
  | temperature x =>
      "temperature " ++ String.ofList x.messageText ++ " is outside the range 0.0..=2.0"
  | emptyMutateOnly => "mutateOnly must not be empty"
  | emptyMutateOnlyLines => "mutateOnlyLines must list at least one line"
  | badLine text =>
      "mutateOnlyLines contains " ++ Text.quoted text ++
        ", expected positive line numbers (e.g. 1,3,5)"
  | badGlob glob fault => "invalid glob " ++ Text.quoted glob ++ ": " ++ fault.message
  | missingVariable name => "environment variable " ++ name ++ " is not set"
  | badHeaders name => name ++ " is not a JSON object of header names to values"
  | unreadable source path reason =>
      "cannot read " ++ source.text ++ " " ++ Text.quoted path ++ ": " ++ reason

end Mutagenesis.Config
