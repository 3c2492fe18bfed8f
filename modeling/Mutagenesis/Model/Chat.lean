import Mutagenesis.Config.Fault
import Mutagenesis.Model.Answer
import Mutagenesis.Model.Options
import Mutagenesis.Text.Characters

/-!
# Chat requests and replies

What is sent to an endpoint for one prompt and what it replies, both in JSON, and the headers of a
request as the environment gives them.
-/
namespace Mutagenesis

/-- A message of a conversation. -/
structure Message where
  role : String
  content : String
  deriving DecidableEq, Repr

namespace Message

def toJson (m : Message) : Json := .obj [("role", .str m.role), ("content", .str m.content)]

/-- The fields of a message. -/
inductive Field where
  | role | content
  deriving DecidableEq

def Field.name : Field → String
  | role => "role"
  | content => "content"

def shape : Json.Shape where
  Field := Field
  Value _ := String
  title := "struct ChatMessage"
  fields := [.role, .content]
  name := Field.name
  decoder _ := Json.string
  fallback _ := none

def decoder : Json.Decoder Message := fun v => do
  let d ← shape.draft v
  let role ← shape.need d Field.role
  let content ← shape.need d Field.content
  return { role, content }

end Message

/-- What is sent for a prompt. -/
structure Request where
  model : String
  messages : List Message
  sampling : Sampling
  /-- The providers to prefer, in order. -/
  providerOrder : Option (List String)
  deriving DecidableEq, Repr

namespace Request

/-- The request for a prompt. -/
def ofPrompt (p : Profile) (prompt : String) (options : Options) : Request where
  model := p.name
  messages := [⟨"system", p.context⟩, ⟨"user", prompt⟩]
  sampling := options.resolve p
  providerOrder := options.providerOrder

def toJson (r : Request) : Json :=
  .obj ([("model", .str r.model), ("messages", .arr (r.messages.map Message.toJson)),
    ("max_tokens", .nat r.sampling.maxTokens), ("temperature", .float r.sampling.temperature),
    ("top_p", .float r.sampling.topP)] ++
    (r.providerOrder.map fun ps => ("provider", Json.obj [("order", .strs ps)])).toList)

end Request

/-- One of the messages that an endpoint offers. -/
def choiceShape : Json.Shape where
  Field := Unit
  Value _ := Message
  title := "struct ChatChoice"
  fields := [()]
  name _ := "message"
  decoder _ := Message.decoder
  fallback _ := none

def choiceDecoder : Json.Decoder Message := fun v => do
  choiceShape.need (← choiceShape.draft v) ()

/-- What an endpoint replies. -/
structure Reply where
  messages : List Message
  usage : Option Usage
  deriving DecidableEq, Repr

namespace Reply

/-- The fields of a reply. -/
inductive Field where
  | choices | usage
  deriving DecidableEq

namespace Field

abbrev Value : Field → Type
  | choices => List Message
  | usage => Option Usage

def name : Field → String
  | choices => "choices"
  | usage => "usage"

def decoder : (f : Field) → Json.Decoder f.Value
  | choices => Json.listOf choiceDecoder
  | usage => Json.nullable Usage.decoder

def fallback : (f : Field) → Option f.Value
  | choices => none
  | usage => some (none : Option Usage)

end Field

def shape : Json.Shape where
  Field := Field
  Value := Field.Value
  title := "struct ChatResponse"
  fields := [.choices, .usage]
  name := Field.name
  decoder := Field.decoder
  fallback := Field.fallback

def decoder : Json.Decoder Reply := fun v => do
  let d ← shape.draft v
  let messages ← shape.need d Field.choices
  let usage ← shape.need d Field.usage
  return { messages, usage }

/-- The answer that a reply gives; a reply that counts no tokens has used none. -/
def answer (r : Reply) : Answer :=
  .ofChoices (r.messages.map (·.content)) (r.usage.getD .zero)

end Reply

/-- The variable that names the endpoint. -/
def endpointVariable : String := "OPENAI_API_ENDPOINT"

/-- The variable that holds the headers of requests. -/
def headersVariable : String := "OPENAI_AUTH_HEADERS"

/-- Reads headers, an object of names and values. -/
def parseHeaders (text : String) : Except Config.Fault (List (String × String)) :=
  (Json.decode (Json.mapOf Json.string) text).mapError fun _ => .badHeaders headersVariable

end Mutagenesis
