import Mutagenesis.Config.Basic

/-!
# Sampling options

What a query may ask for, and what is sent for it: an option that is not given comes from the
model's profile.
-/
namespace Mutagenesis

/-- What stands for a model in requests and cache keys. -/
structure Profile where
  name : String
  temperature : Binary64
  maxTokens : Nat
  /-- What is sent with every prompt. -/
  context : String
  deriving DecidableEq, Repr

/-- What stands for the model of a configuration. -/
def Config.profile (c : Config) (context : String) : Profile where
  name := c.modelName
  temperature := c.temperature
  maxTokens := c.maxTokens
  context := context

/-- The options of one query. -/
structure Options where
  maxTokens : Option Nat
  temperature : Option Binary64
  topP : Option Binary64
  /-- The providers to prefer, in order. -/
  providerOrder : Option (List String)
  deriving DecidableEq, Repr

/-- The sampling parameters sent with a request. -/
structure Sampling where
  maxTokens : Nat
  temperature : Binary64
  topP : Binary64
  deriving DecidableEq, Repr

namespace Options

def none : Options := ⟨.none, .none, .none, .none⟩

/-- The parameters sent for the options. -/
def resolve (o : Options) (p : Profile) : Sampling where
  maxTokens := o.maxTokens.getD p.maxTokens
  temperature := o.temperature.getD p.temperature
  topP := o.topP.getD (.ofNat 1)

/-- The options that are given. -/
def toJson (o : Options) : Json :=
  .obj ((o.maxTokens.map fun n => ("max_tokens", Json.nat n)).toList ++
    (o.temperature.map fun x => ("temperature", Json.float x)).toList ++
    (o.topP.map fun x => ("top_p", Json.float x)).toList ++
    (o.providerOrder.map fun ps => ("provider_order", Json.strs ps)).toList)

/-- The fields of options. -/
inductive Field where
  | maxTokens | temperature | topP | providerOrder
  deriving DecidableEq

namespace Field

abbrev Value : Field → Type
  | maxTokens => Option Nat
  | temperature | topP => Option Binary64
  | providerOrder => Option (List String)

def name : Field → String
  | maxTokens => "max_tokens"
  | temperature => "temperature"
  | topP => "top_p"
  | providerOrder => "provider_order"

def decoder : (f : Field) → Json.Decoder f.Value
  | maxTokens => Json.nullable Json.u32
  | temperature | topP => Json.nullable Json.double
  | providerOrder => Json.nullable (Json.listOf Json.string)

def fallback : (f : Field) → Option f.Value
  | maxTokens => some (.none : Option Nat)
  | temperature | topP => some (.none : Option Binary64)
  | providerOrder => some (.none : Option (List String))

end Field

def shape : Json.Shape where
  Field := Field
  Value := Field.Value
  title := "struct PostOptions"
  fields := [.maxTokens, .temperature, .topP, .providerOrder]
  name := Field.name
  decoder := Field.decoder
  fallback := Field.fallback

def decoder : Json.Decoder Options := fun v => do
  let d ← shape.draft v
  let maxTokens ← shape.need d Field.maxTokens
  let temperature ← shape.need d Field.temperature
  let topP ← shape.need d Field.topP
  let providerOrder ← shape.need d Field.providerOrder
  return { maxTokens, temperature, topP, providerOrder }

end Options

end Mutagenesis
