import Mutagenesis.Location.Json
import Mutagenesis.Model.Answer

/-!
# Records of prompts

A record keeps a prompt that was sent and what came of it: an answer, or a failure. In JSON the
outcome has two members, one that names it and one with the answer.
-/
namespace Mutagenesis

/-- What came of a prompt. -/
inductive Outcome where
  | completed (answer : Answer)
  | failed
  deriving DecidableEq, Repr

namespace Outcome

def toJson : Outcome → Json
  | completed answer => .obj [("status", .str "completed"), ("result", answer.toJson)]
  | failed => .obj [("status", .str "failed")]

/-- The two outcomes without what they hold. -/
inductive Status where
  | completed
  | failed
  deriving DecidableEq, Repr

namespace Status

/-- The status of a name. -/
def ofName (name : String) (stop : Nat) : Except Json.Fault Status :=
  if name = "completed" then .ok .completed
  else if name = "failed" then .ok .failed
  else .error ⟨.unknownVariant name "`completed` or `failed`", stop⟩

/-- Reads a status: its name, or an object whose only member is of that name and null. -/
def decoder : Json.Decoder Status
  | .str s stop => ofName s stop
  | .bad used _ => .error used
  | .obj start [] close => do
      discard close
      throw ⟨.noValue, start + 2⟩
  | .obj _ ((.bad used _, _) :: _) _ => .error used
  | .obj _ ((.name name stop, v) :: more) close => do
      let status ← ofName name stop
      match v with
        | .null _ => .ok ()
        | v => .error (v.unfit "unit")
      match more with
        | [] => discard close
        | _ :: _ => .error ⟨.noValue, stop⟩
      return status
  | v => .error ⟨.noValue, v.described.2⟩

/-- The outcome with what the object holds. -/
def decode (s : Status) (v : Json.Found) : Except Json.Fault Outcome :=
  match s with
  | .completed => (Answer.decoder v).map .completed
  | .failed =>
      match v with
      | .null _ => .ok .failed
      | v => .error (v.unfit "unit variant RecordedOutcome::Failed")

/-- The outcome of an object that holds nothing else. -/
def alone (s : Status) (stop : Nat) : Except Json.Fault Outcome :=
  match s with
  | .completed => .error ⟨.missing "result", stop⟩
  | .failed => .ok .failed

end Status

/-- The two members of an outcome. -/
inductive Half where
  | status
  | result
  deriving DecidableEq, Repr

def Half.name : Half → String
  | status => "status"
  | result => "result"

/-- A member whose name counts, where its name ends, and the members after it. -/
structure Member where
  half : Half
  stop : Nat
  value : Json.Found
  rest : List (Json.Key × Json.Found)

/-- The next member whose name counts; those before it are passed over. -/
def seek : List (Json.Key × Json.Found) → Except Json.Fault (Option Member)
  | [] => .ok none
  | (.bad used _, _) :: _ => .error used
  | (.name name stop, v) :: rest =>
      if name = Half.status.name then .ok (some ⟨.status, stop, v, rest⟩)
      else if name = Half.result.name then .ok (some ⟨.result, stop, v, rest⟩)
      else do
        v.pass
        seek rest

def repeatedMember (m : Member) : Json.Fault := ⟨.repeated m.half.name, m.stop⟩

/-- Refuses a further member whose name counts. -/
def finish (rest : List (Json.Key × Json.Found)) (close : Except Json.Fault Nat) (o : Outcome) :
    Except Json.Fault Outcome := do
  match ← seek rest with
  | some m => throw (repeatedMember m)
  | none =>
      discard close
      return o

/-- How deep the lists and objects of an answer may nest that stands before the status. -/
def heldDepth : Nat := 125

/-- The outcome of an object. An answer before the status is read whole first. -/
def ofMembers (members : List (Json.Key × Json.Found)) (close : Except Json.Fault Nat) :
    Except Json.Fault Outcome := do
  match ← seek members with
  | none => throw ⟨.missing Half.status.name, ← close⟩
  | some ⟨.status, _, v, rest⟩ =>
      let status ← Status.decoder v
      match ← seek rest with
      | none => status.alone (← close)
      | some ⟨.result, _, v, rest⟩ => finish rest close (← status.decode v)
      | some m => throw (repeatedMember m)
  | some ⟨.result, _, v, rest⟩ =>
      let held ← v.hold heldDepth
      match ← seek rest with
      | none => throw ⟨.missing Half.status.name, ← close⟩
      | some ⟨.status, _, v, rest⟩ =>
          let status ← Status.decoder v
          finish rest close (← status.decode held)
      | some m => throw (repeatedMember m)

/-- How messages name an outcome. -/
def title : String := "adjacently tagged enum RecordedOutcome"

/-- The outcome of a list of the status and the answer. -/
def ofItems (start : Nat) (items : List Json.Found) (close : Except Json.Fault Nat) :
    Except Json.Fault Outcome :=
  match items with
  | [] => do throw ⟨.wrongLength 0 title, ← close⟩
  | v :: more => do
      let status ← Status.decoder v
      match more with
      | [] => throw ⟨.wrongLength 1 title, ← close⟩
      | v :: more =>
          let outcome ← status.decode v
          match more with
          | [] =>
              discard close
              return outcome
          | _ :: _ => throw ⟨.trailingText, start⟩

def decoder : Json.Decoder Outcome
  | .obj _ members close => ofMembers members close
  | .arr start _ items close => ofItems start items close
  | v => .error (v.unfit title)

end Outcome

/-- A prompt that was sent, and what came of it. -/
structure PromptRecord where
  id : Nat
  text : String
  location : Location
  outcome : Outcome
  deriving DecidableEq, Repr

namespace PromptRecord

def toJson (r : PromptRecord) : Json :=
  .obj [("id", .nat r.id), ("text", .str r.text), ("location", r.location.toJson),
    ("outcome", r.outcome.toJson)]

/-- The fields of a record. -/
inductive Field where
  | id | text | location | outcome
  deriving DecidableEq

namespace Field

abbrev Value : Field → Type
  | id => Nat
  | text => String
  | location => Location
  | outcome => Outcome

def name : Field → String
  | id => "id"
  | text => "text"
  | location => "location"
  | outcome => "outcome"

def decoder : (f : Field) → Json.Decoder f.Value
  | id => Json.u64
  | text => Json.string
  | location => Location.decoder
  | outcome => Outcome.decoder

end Field

def shape : Json.Shape where
  Field := Field
  Value := Field.Value
  title := "struct PromptRecord"
  fields := [.id, .text, .location, .outcome]
  name := Field.name
  decoder := Field.decoder
  fallback _ := none

def decoder : Json.Decoder PromptRecord := fun v => do
  let d ← shape.draft v
  let id ← shape.need d Field.id
  let text ← shape.need d Field.text
  let location ← shape.need d Field.location
  let outcome ← shape.need d Field.outcome
  return { id, text, location, outcome }

end PromptRecord

end Mutagenesis
