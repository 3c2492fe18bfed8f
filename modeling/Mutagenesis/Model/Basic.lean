import Mutagenesis.Files.World
import Mutagenesis.Model.Answer
import Mutagenesis.Model.Options
import Mutagenesis.Text.Decimal
import Mutagenesis.Text.Quoted

/-!
# Models

A model answers prompts. Whatever it remembers is a state of a type of its own, and it may read and
change files; so a query goes from the world and the model's state before it to those after it. A
query may fail: a failed request, a status other than success and a reply that cannot be read may
pass, and the other failures are final.
-/
namespace Mutagenesis

/-- Why a query has no answer. -/
inductive Failure where
  /-- The request could not be sent, or no reply came. -/
  | transport (reason : String)
  | status (code : Nat) (body : String)
  /-- The reply is no chat response. -/
  | decode (reason : String)
  /-- Every attempt failed. -/
  | exhausted (attempts : Nat) (last : Failure)
  /-- A replay has no record for the prompt, of which this is the head. -/
  | unrecorded (head : String)
  /-- The prompt failed in the recorded run. -/
  | recorded
  deriving DecidableEq, Repr

namespace Failure

def message : Failure → String
  | transport reason => "request failed: " ++ reason
  | status code body =>
      "endpoint returned " ++ String.ofList (Text.numeral code) ++ ": " ++ body
  | decode reason => "could not decode response: " ++ reason
  | exhausted attempts last =>
      "gave up after " ++ String.ofList (Text.numeral attempts) ++ " attempts: " ++ last.message
  | unrecorded head => "no recorded response for prompt " ++ Text.quoted head
  | recorded => "prompt failed in the recorded run"

/-- Whether another attempt may succeed. -/
def isTransient : Failure → Bool
  | transport _ | status .. | decode _ => true
  | _ => false

def isUnrecorded : Failure → Bool
  | unrecorded _ => true
  | _ => false

end Failure

/-- How often queries were repeated and how many failed. -/
structure FailureCounter where
  nrRetries : Nat
  nrFailures : Nat
  deriving DecidableEq, Repr

namespace FailureCounter

/-- Whether the counts fit the words of 32 bits that hold them. -/
structure Fits (c : FailureCounter) : Prop where
  nrRetries : c.nrRetries ≤ 0xFFFFFFFF
  nrFailures : c.nrFailures ≤ 0xFFFFFFFF

def zero : FailureCounter := ⟨0, 0⟩

def toJson (c : FailureCounter) : Json :=
  .obj [("nrRetries", .nat c.nrRetries), ("nrFailures", .nat c.nrFailures)]

/-- The counter after a query with so many retries. -/
def record (c : FailureCounter) (retries : Nat) (failed : Bool) : FailureCounter :=
  ⟨c.nrRetries + retries, if failed then c.nrFailures + 1 else c.nrFailures⟩

end FailureCounter

/-- Something that answers prompts. -/
structure Model (σ : Type) where
  profile : Profile
  /-- Answers a prompt. -/
  query : String → Options → Files.World × σ → Except Failure Answer × Files.World × σ
  counter : σ → FailureCounter

end Mutagenesis
