import Mutagenesis.Text.Characters
import Mutagenesis.Text.Quoted

/-!
# Faults of JSON texts

What may be wrong with a text that should hold a value of some type, and where. A text can be
malformed, it can end too early, or it can be well formed and unfit: of another type, with a member
missing or given twice, with a number out of range.
-/
namespace Mutagenesis.Json

/-- What was being read when the text ended. -/
inductive Part where
  | list
  | object
  | string
  | value
  deriving DecidableEq, Repr

/-- What is wrong. -/
inductive Cause where
  | endsIn (part : Part)
  | noColon
  | noListEnd
  | noObjectEnd
  | noWord
  | noValue
  | badEscape
  | badNumber
  | numberTooLarge
  | controlCharacter
  | keyIsNoString
  | loneSurrogate
  | cutSurrogate
  | trailingComma
  | trailingText
  | tooDeep
  /-- A value of another type; both texts are worded for the message. -/
  | wrongType (found expected : String)
  | wrongValue (found expected : String)
  | wrongLength (length : Nat) (expected : String)
  | missing (name : String)
  | repeated (name : String)
  | unknownVariant (name expected : String)
  deriving DecidableEq, Repr

/-- The three ways in which a text can be wrong. -/
inductive Category where
  | malformed
  | unfinished
  | unfit
  deriving DecidableEq, Repr

def Cause.category : Cause → Category
  | endsIn _ => .unfinished
  | wrongType .. | wrongValue .. | wrongLength .. | missing _ | repeated _ | unknownVariant .. =>
      .unfit
  | _ => .malformed

def Cause.message : Cause → String
  | endsIn .list => "EOF while parsing a list"
  | endsIn .object => "EOF while parsing an object"
  | endsIn .string => "EOF while parsing a string"
  | endsIn .value => "EOF while parsing a value"
  | noColon => "expected `:`"
  | noListEnd => "expected `,` or `]`"
  | noObjectEnd => "expected `,` or `\x7d`"
  | noWord => "expected ident"
  | noValue => "expected value"
  | badEscape => "invalid escape"
  | badNumber => "invalid number"
  | numberTooLarge => "number out of range"
  | controlCharacter => "control character (\\u0000-\\u001F) found while parsing a string"
  | keyIsNoString => "key must be a string"
  | loneSurrogate => "lone leading surrogate in hex escape"
  | cutSurrogate => "unexpected end of hex escape"
  | trailingComma => "trailing comma"
  | trailingText => "trailing characters"
  | tooDeep => "recursion limit exceeded"
  | wrongType found expected => "invalid type: " ++ found ++ ", expected " ++ expected
  | wrongValue found expected => "invalid value: " ++ found ++ ", expected " ++ expected
  | wrongLength length expected =>
      "invalid length " ++ String.ofList (Text.numeral length) ++ ", expected " ++ expected
  | missing name => "missing field `" ++ name ++ "`"
  | repeated name => "duplicate field `" ++ name ++ "`"
  | unknownVariant name expected => "unknown variant `" ++ name ++ "`, expected " ++ expected

/-- A cause and the offset at which it was noticed. -/
structure Fault where
  cause : Cause
  offset : Nat
  deriving DecidableEq, Repr

def Fault.category (f : Fault) : Category := f.cause.category

/-- The message, with the line and column of the fault in the text. -/
def Fault.message (f : Fault) (source : List Char) : String :=
  let before := (Text.cut f.offset source).map (·.1)
  let (line, column) := Text.positionAfter (before.getD source)
  f.cause.message ++ " at line " ++ String.ofList (Text.numeral line) ++ " column " ++
    String.ofList (Text.numeral column)

end Mutagenesis.Json
