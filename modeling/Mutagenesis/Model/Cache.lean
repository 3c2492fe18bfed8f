import Mutagenesis.Files.Access
import Mutagenesis.Model.Basic
import Mutagenesis.Model.Options
import Mutagenesis.Model.Sha256

/-!
# Cached answers

Answers are kept in files, one for each fingerprint: the digest of everything that is sent for a
query, the preferred providers apart. A file that is no entry, or the entry of another fingerprint,
counts as none; and an answer that cannot be stored is an answer all the same.
-/
namespace Mutagenesis

/-- What an answer depends on. -/
def fingerprintInput (p : Profile) (prompt : String) (options : Options) : Json :=
  let sampling := options.resolve p
  .obj [("model", .str p.name), ("system_prompt", .str p.context), ("prompt", .str prompt),
    ("temperature", .float sampling.temperature), ("max_tokens", .nat sampling.maxTokens),
    ("top_p", .float sampling.topP)]

/-- The key of the answer to a prompt. -/
def fingerprint (p : Profile) (prompt : String) (options : Options) : String :=
  Sha256.digest (Text.bytes (fingerprintInput p prompt options).line)

open Files (World)

/-- A stored answer, with what was asked. -/
structure CacheEntry where
  fingerprint : String
  model : String
  prompt : String
  options : Options
  answer : Answer
  deriving DecidableEq, Repr

namespace CacheEntry

def toJson (e : CacheEntry) : Json :=
  .obj [("fingerprint", .str e.fingerprint), ("model", .str e.model), ("prompt", .str e.prompt),
    ("options", e.options.toJson), ("result", e.answer.toJson)]

/-- The fields of an entry. -/
inductive Field where
  | fingerprint | model | prompt | options | answer
  deriving DecidableEq

namespace Field

abbrev Value : Field → Type
  | fingerprint | model | prompt => String
  | options => Options
  | answer => Answer

def name : Field → String
  | fingerprint => "fingerprint"
  | model => "model"
  | prompt => "prompt"
  | options => "options"
  | answer => "result"

def decoder : (f : Field) → Json.Decoder f.Value
  | fingerprint | model | prompt => Json.string
  | options => Options.decoder
  | answer => Answer.decoder

end Field

def shape : Json.Shape where
  Field := Field
  Value := Field.Value
  title := "struct CacheEntry"
  fields := [.fingerprint, .model, .prompt, .options, .answer]
  name := Field.name
  decoder := Field.decoder
  fallback _ := none

def decoder : Json.Decoder CacheEntry := fun v => do
  let d ← shape.draft v
  let fingerprint ← shape.need d Field.fingerprint
  let model ← shape.need d Field.model
  let prompt ← shape.need d Field.prompt
  let options ← shape.need d Field.options
  let answer ← shape.need d Field.answer
  return { fingerprint, model, prompt, options, answer }

end CacheEntry

namespace Cache

/-- The folder in which entries of a fingerprint are kept: its first two bytes, if they are
characters of their own. -/
def shard (fingerprint : String) : String :=
  match Text.cut 2 fingerprint.toList with
  | some (front, _) => String.ofList front
  | none => "xx"

/-- The path of an entry. -/
def entryPath (folder : Path) (fingerprint : String) : Path :=
  (folder.join (.ofString (shard fingerprint))).join (.ofString (fingerprint ++ ".json"))

/-- The stored answer of a fingerprint. -/
def lookup (w : World) (folder : Path) (fingerprint : String) : Option Answer :=
  match w.readText (entryPath folder fingerprint) with
  | .error _ => none
  | .ok text =>
      match Json.decode CacheEntry.decoder text with
      | .ok entry => if entry.fingerprint = fingerprint then some entry.answer else none
      | .error _ => none

/-- Stores an entry, as far as files allow. -/
def store (w : World) (folder : Path) (entry : CacheEntry) : Except Files.Fault Unit × World :=
  let path := entryPath folder entry.fingerprint
  match w.makeFolders (path.parent?.getD folder) with
  | (.error fault, w) => (.error fault, w)
  | (.ok (), w) => w.replace path (Text.bytes entry.toJson.page)

/-- The entry of an answer. -/
def entryOf (p : Profile) (prompt : String) (options : Options) (answer : Answer) : CacheEntry where
  fingerprint := fingerprint p prompt options
  model := p.name
  prompt := prompt
  options := options
  answer := answer

end Cache

/-- A model whose answers are kept in a folder. -/
def Model.cached {σ : Type} (m : Model σ) (folder : Path) : Model σ where
  profile := m.profile
  query prompt options s :=
    match Cache.lookup s.1 folder (fingerprint m.profile prompt options) with
    | some answer => (.ok answer, s)
    | none =>
        match m.query prompt options s with
        | (.error failure, s) => (.error failure, s)
        | (.ok answer, w, s) =>
            (.ok answer, (Cache.store w folder (Cache.entryOf m.profile prompt options answer)).2, s)
  counter := m.counter

end Mutagenesis
