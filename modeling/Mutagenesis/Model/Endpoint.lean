import Mutagenesis.Model.Live

/-!
# Endpoints

How a request fares that is sent over HTTP. A header whose name or value HTTP does not know keeps
the request from being sent; a reply of success holds a chat reply, and one of another status is a
failure of that status.
-/
namespace Mutagenesis

/-- The characters of a header's name, letters and digits apart. -/
def tokenMarks : List Char := "!#$%&'*+-.^_\x60|~".toList

/-- Whether a text may name a header. -/
def isHeaderName (name : String) : Bool :=
  !name.isEmpty && name.toList.all fun c => c.isAlphanum || tokenMarks.contains c

/-- Whether a text may be the value of a header. -/
def isHeaderValue (value : String) : Bool :=
  (Text.bytes value).all fun b => b = 0x09 || (0x20 ≤ b && b ≠ 0x7F)

/-- What a reply of the given status and content means. -/
def Reply.ofContent (status : Nat) (content : Bytes) : Except Failure Reply :=
  let text := Text.ofBytesLossy content
  if status < 200 || 300 ≤ status then .error (.status status text)
  else match Json.decode Reply.decoder text with
    | .ok reply => .ok reply
    | .error fault => .error (.decode (fault.message text.toList))

/-- Sends the text of a request: the status and the content that came back, if any did, the
milliseconds until then, and the state of the other side. The second argument is the time of the
request. -/
abbrev Exchange (τ : Type) := String → Nat → τ → Option (Nat × Bytes) × Nat × τ

/-- The transport over HTTP that sends the given headers. -/
def Transport.http {τ : Type} (headers : List (String × String)) (exchange : Exchange τ) :
    Transport τ where
  send request time s :=
    if headers.any fun (name, value) => !(isHeaderName name && isHeaderValue value) then
      (.error (.transport "builder error"), 0, s)
    else match exchange request.toJson.line time s with
      | (none, elapsed, s) => (.error (.transport "error sending request"), elapsed, s)
      | (some (status, content), elapsed, s) => (Reply.ofContent status content, elapsed, s)

end Mutagenesis
