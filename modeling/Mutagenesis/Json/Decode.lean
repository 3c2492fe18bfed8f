import Mutagenesis.Json.Basic
import Mutagenesis.Json.Found

/-!
# Decoding JSON

Decoders make a value of a type from what a text holds. They go through it from left to right, and
the first fault they meet is the outcome. A record is described by a `Shape`: its fields, their
names and decoders, and the values of those that may be missing. Members may stand in any order,
unknown ones are passed over, a known one must not be repeated; a list of the fields in order is
accepted in place of an object.
-/
namespace Mutagenesis.Json

/-- Makes a value from what a text holds. -/
abbrev Decoder (α : Type) := Found → Except Fault α

namespace Found

mutual

/-- The faults of a value that is passed over. -/
def pass : Found → Except Fault Unit
  | bad _ (some f) => .error f
  | bad _ none | null _ | bool .. | num .. | str .. => .ok ()
  | arr _ _ items close => do
      passItems items
      discard close
  | obj _ members close => do
      passMembers members
      discard close

def passItems : List Found → Except Fault Unit
  | [] => .ok ()
  | v :: vs => do
      pass v
      passItems vs

def passMembers : List (Key × Found) → Except Fault Unit
  | [] => .ok ()
  | (key, v) :: ms => do
      match key with
        | .bad _ (some f) => .error f
        | _ => .ok ()
      pass v
      passMembers ms

end

mutual

/-- A value read whole before it is decoded: all its faults count, lists and objects may nest
only so deep, and the lists in it are marked as held back. -/
def hold (depth : Nat) : Found → Except Fault Found
  | bad used _ => .error used
  | arr start _ items close =>
      match depth with
      | 0 => .error ⟨.tooDeep, start + 1⟩
      | depth + 1 => do
          let items ← holdItems depth items
          discard close
          return arr start true items close
  | obj start members close =>
      match depth with
      | 0 => .error ⟨.tooDeep, start + 1⟩
      | depth + 1 => do
          let members ← holdMembers depth members
          discard close
          return obj start members close
  | v => .ok v

def holdItems (depth : Nat) : List Found → Except Fault (List Found)
  | [] => .ok []
  | v :: vs => do
      let v ← hold depth v
      return v :: (← holdItems depth vs)

def holdMembers (depth : Nat) : List (Key × Found) → Except Fault (List (Key × Found))
  | [] => .ok []
  | (key, v) :: ms => do
      match key with
        | .bad used _ => .error used
        | _ => .ok ()
      let v ← hold depth v
      return (key, v) :: (← holdMembers depth ms)

end

/-- How messages name a value and where its fault is noticed. -/
def described : Found → String × Nat
  | null stop => ("null", stop)
  | bool b stop => ("boolean `" ++ (if b then "true" else "false") ++ "`", stop)
  | num (.natural n) stop => ("integer `" ++ String.ofList (Text.numeral n) ++ "`", stop)
  | num (.negative n) stop => ("integer `-" ++ String.ofList (Text.numeral n) ++ "`", stop)
  | num (.float x) stop => ("floating point `" ++ String.ofList x.dataText ++ "`", stop)
  | str s stop => ("string " ++ Text.quoted s, stop)
  | bad used _ => ("", used.offset)
  | arr start .. => ("sequence", start)
  | obj start .. => ("map", start)

/-- The fault of a value of another type. -/
def unfit (expected : String) (v : Found) : Fault :=
  match v with
  | bad used _ => used
  | _ =>
      let (found, offset) := v.described
      ⟨.wrongType found expected, offset⟩

end Found

open Found

/-- A natural number up to the bound. -/
def natural (most : Nat) (expected : String) : Decoder Nat := fun v =>
  match v with
  | .num (.natural n) stop =>
      if n ≤ most then .ok n
      else .error ⟨.wrongValue v.described.1 expected, stop⟩
  | .num (.negative _) stop => .error ⟨.wrongValue v.described.1 expected, stop⟩
  | v => .error (v.unfit expected)

def u32 : Decoder Nat := natural 0xFFFFFFFF "u32"

def u64 : Decoder Nat := natural 0xFFFFFFFFFFFFFFFF "u64"

/-- A count. -/
def count : Decoder Nat := natural 0xFFFFFFFFFFFFFFFF "usize"

/-- A double; integers are taken to the nearest. -/
def double : Decoder Binary64
  | .num (.natural n) _ => .ok (.ofNat n)
  | .num (.negative n) _ => .ok (Binary64.ofRatio true n 1)
  | .num (.float x) _ => .ok x
  | v => .error (v.unfit "f64")

def boolean : Decoder Bool
  | .bool b _ => .ok b
  | v => .error (v.unfit "a boolean")

def string : Decoder String
  | .str s _ => .ok s
  | v => .error (v.unfit "a string")

/-- A value or null. -/
def nullable {α : Type} (d : Decoder α) : Decoder (Option α)
  | .null _ => .ok none
  | v => (d v).map some

/-- The items in order, up to the first fault. -/
def decodeAll {α : Type} (d : Decoder α) : List Found → Except Fault (List α)
  | [] => .ok []
  | v :: vs => do
      let x ← d v
      return x :: (← decodeAll d vs)

/-- A list of any length. -/
def listOf {α : Type} (d : Decoder α) : Decoder (List α)
  | .arr _ _ items close => do
      let xs ← decodeAll d items
      discard close
      return xs
  | v => .error (v.unfit "a sequence")

/-- An object of any members as a list of names and values; of a repeated name the last value
stays. -/
def mapOf {α : Type} (d : Decoder α) : Decoder (List (String × α))
  | .obj _ members close => do
      let entries ← members.foldlM insert []
      discard close
      return entries
  | v => .error (v.unfit "a map")
where
  insert (entries : List (String × α)) (member : Key × Found) :
      Except Fault (List (String × α)) :=
    match member.1 with
    | .bad used _ => .error used
    | .name name _ => (d member.2).map fun x => entries.filter (·.1 ≠ name) ++ [(name, x)]

/-- The fields of a record type and how they are read. -/
structure Shape where
  Field : Type
  [decEq : DecidableEq Field]
  Value : Field → Type
  /-- How messages name the record. -/
  title : String
  /-- The fields in the order of a list that stands for the record. -/
  fields : List Field
  name : Field → String
  decoder : (f : Field) → Decoder (Value f)
  /-- The value of a field that may be missing. -/
  fallback : (f : Field) → Option (Value f)

namespace Shape

attribute [instance] decEq

variable (s : Shape)

/-- The values read so far, by field. -/
def Draft : Type := (f : s.Field) → Option (s.Value f)

def Draft.empty : s.Draft := fun _ => none

variable {s}

/-- The draft with a value for a field. -/
def Draft.set (d : s.Draft) (f : s.Field) (x : s.Value f) : s.Draft := fun g =>
  if h : f = g then some (h ▸ x) else d g

@[simp] theorem Draft.set_same (d : s.Draft) (f : s.Field) (x : s.Value f) :
    d.set f x f = some x := by simp [Draft.set]

@[simp] theorem Draft.set_other (d : s.Draft) {f g : s.Field} (x : s.Value f) (h : f ≠ g) :
    d.set f x g = d g := by simp [Draft.set, h]

variable (s)

/-- How messages name the record when its length is at fault. -/
def sizedTitle : String :=
  let n := s.fields.length
  s.title ++ " with " ++ String.ofList (Text.numeral n) ++
    (if n = 1 then " element" else " elements")

/-- The field of a name. -/
def field? (name : String) : Option s.Field := s.fields.find? fun f => s.name f = name

/-- Reads one member into the draft. -/
def readMember (d : s.Draft) (member : Key × Found) : Except Fault s.Draft :=
  match member.1 with
  | .bad used _ => .error used
  | .name name stop =>
      match s.field? name with
      | none => member.2.pass.map fun _ => d
      | some f =>
          if (d f).isSome then .error ⟨.repeated name, stop⟩
          else (s.decoder f member.2).map fun x => d.set f x

/-- Reads the members in turn. -/
def readMembers (d : s.Draft) : List (Key × Found) → Except Fault s.Draft
  | [] => .ok d
  | m :: ms => (s.readMember d m).bind fun d => readMembers d ms

/-- Reads a list of the fields in order; `index` counts those read. What is left over is the
second part of the outcome. -/
def readInOrder (d : s.Draft) (close : Except Fault Nat) (index : Nat) :
    List s.Field → List Found → Except Fault (s.Draft × List Found)
  | [], left => .ok (d, left)
  | f :: fs, [] => do
      let stop ← close
      if (s.fallback f).isNone then
        .error ⟨.wrongLength index s.sizedTitle, stop⟩
      else readInOrder d close (index + 1) fs []
  | f :: fs, v :: vs => do
      let x ← s.decoder f v
      readInOrder (d.set f x) close (index + 1) fs vs

/-- The draft of a record and the offset at which its missing fields are noticed. -/
def draft (v : Found) : Except Fault (s.Draft × Nat) :=
  match v with
  | .obj _ members close => do
      let d ← s.readMembers (Draft.empty s) members
      let stop ← close
      return (d, stop)
  | .arr start held items close => do
      let (d, left) ← s.readInOrder (Draft.empty s) close 0 s.fields items
      match left with
        | [] =>
            let stop ← close
            return (d, stop)
        | _ :: _ =>
            if held then .error ⟨.wrongLength items.length s.sizedTitle, start⟩
            else .error ⟨.trailingText, start⟩
  | v => .error (v.unfit s.title)

/-- The value of a field in a draft, or its fallback. -/
def need (d : s.Draft × Nat) (f : s.Field) : Except Fault (s.Value f) :=
  match d.1 f with
  | some x => .ok x
  | none =>
      match s.fallback f with
      | some x => .ok x
      | none => .error ⟨.missing (s.name f), d.2⟩

end Shape

/-- Decodes a whole text; nothing but blanks may follow the value. -/
def decode {α : Type} (d : Decoder α) (source : String) : Except Fault α := do
  let (found, onward) := Found.read source.toList
  let x ← d found
  let last ← onward
  let last := next last
  if last.rest.isEmpty then return x else .error (faultAt last .trailingText)

end Mutagenesis.Json
