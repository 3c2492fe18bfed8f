import Mutagenesis.Number.Reading
import Mutagenesis.Text.Characters

/-!
# Scanning command lines

A command takes one operand and options by name, each at most once. An option is a switch or takes
a value, after an equals sign or as the next argument, which must not look like an option. After a
double dash everything is an operand. Scanning stops at the first argument that cannot be taken and
at the first request for help.
-/
namespace Mutagenesis.Command

/-- What an option's value must be. -/
inductive ValueKind where
  | text
  | path
  | double
  | u32
  | u64
  deriving DecidableEq, Repr

/-- A natural number of at most thirty-two bits. A minus sign may stand before zero. -/
def readU32? (text : String) : Option Nat :=
  match text.toList with
  | '-' :: digits => (Text.value? digits).bind fun n => if n = 0 then some 0 else none
  | cs => Text.unsigned? 0xFFFFFFFF cs

/-- A natural number of at most sixty-four bits. -/
def readU64? (text : String) : Option Nat := Text.unsigned? 0xFFFFFFFFFFFFFFFF text.toList

/-- Whether a value is of a kind. -/
def ValueKind.accepts (kind : ValueKind) (text : String) : Bool :=
  match kind with
  | .text => true
  | .path => !text.isEmpty
  | .double => (Binary64.ofText? text.toList).isSome
  | .u32 => (readU32? text).isSome
  | .u64 => (readU64? text).isSome

/-- An option of a command. -/
structure OptionRule where
  name : String
  letter : Option Char
  /-- A switch takes no value. -/
  kind : Option ValueKind
  /-- The variable of the environment that may hold the value. -/
  fromEnv : Option String

namespace OptionRule

def switch (name : String) : OptionRule := ⟨name, none, none, none⟩

def letterSwitch (name : String) (letter : Char) : OptionRule := ⟨name, some letter, none, none⟩

def value (name : String) (kind : ValueKind) : OptionRule := ⟨name, none, some kind, none⟩

def orVariable (name : String) (kind : ValueKind) (env : String) : OptionRule :=
  ⟨name, none, some kind, some env⟩

end OptionRule

/-- Why scanning stopped. -/
inductive Stop where
  | wrong
  | help
  | version
  deriving DecidableEq, Repr

/-- The arguments scanned so far. A switch stands among the values with an empty one. -/
structure Scanned where
  values : List (String × String)
  operands : List String
  deriving DecidableEq, Repr

namespace Scanned

def empty : Scanned := ⟨[], []⟩

/-- Takes an option, which must not have been given before. -/
def give (s : Scanned) (name value : String) : Except Stop Scanned :=
  if (s.values.lookup name).isSome then .error .wrong
  else .ok { s with values := s.values ++ [(name, value)] }

/-- Takes the operand, of which there is only one. -/
def operand (s : Scanned) (value : String) : Except Stop Scanned :=
  if s.operands.isEmpty && ValueKind.path.accepts value then .ok { s with operands := [value] }
  else .error .wrong

def has (s : Scanned) (name : String) : Bool := (s.values.lookup name).isSome

end Scanned

/-- Whether an argument looks like an option. -/
def isOptionLike (arg : String) : Bool :=
  match arg.toList with
  | '-' :: _ :: _ => true
  | _ => false

/-- The name of an option and the value after an equals sign, if the argument has two dashes. -/
def longOption? (arg : String) : Option (String × Option String) :=
  match arg.toList with
  | '-' :: '-' :: cs =>
      let name := cs.takeWhile (· ≠ '=')
      let value := match cs.dropWhile (· ≠ '=') with
        | '=' :: value => some (String.ofList value)
        | _ => none
      some (String.ofList name, value)
  | _ => none

/-- Takes an option and its value. -/
def takeValue (s : Scanned) (rule : OptionRule) (kind : ValueKind) (value : String) :
    Except Stop Scanned :=
  if kind.accepts value then s.give rule.name value else .error .wrong

/-- Takes switches by their letters. -/
def takeLetters (rules : List OptionRule) : Scanned → List Char → Except Stop Scanned
  | s, [] => .ok s
  | s, c :: cs =>
      match rules.find? (·.letter = some c) with
      | some rule => do takeLetters rules (← s.give rule.name "") cs
      | none => if c = 'h' then .error .help else .error .wrong

/-- Takes a switch. -/
def takeSwitch (s : Scanned) (name : String) (value : Option String) : Except Stop Scanned :=
  match value with
  | none => s.give name ""
  | some _ => .error .wrong

/-- Scans the arguments of a command. -/
def scan (rules : List OptionRule) : Scanned → List String → Except Stop Scanned
  | s, [] => .ok s
  | s, arg :: more =>
      if arg = "--" then more.foldlM Scanned.operand s
      else match longOption? arg with
        | some (name, value) =>
            match rules.find? (·.name = name) with
            | none => if name = "help" && value.isNone then .error .help else .error .wrong
            | some rule =>
                match rule.kind, value with
                | none, value => do scan rules (← takeSwitch s rule.name value) more
                | some kind, some value => do scan rules (← takeValue s rule kind value) more
                | some kind, none =>
                    match more with
                    | [] => .error .wrong
                    | value :: more => do
                        if isOptionLike value then throw .wrong
                        scan rules (← takeValue s rule kind value) more
        | none =>
            match arg.toList with
            | '-' :: c :: cs => do scan rules (← takeLetters rules s (c :: cs)) more
            | _ => do scan rules (← s.operand arg) more

/-- Takes an option that was not given from its variable in the environment. -/
def takeVariable (env : List (String × String)) (s : Scanned) (rule : OptionRule) :
    Except Stop Scanned :=
  if s.has rule.name then .ok s
  else match rule.kind, rule.fromEnv.bind fun name => env.lookup name with
    | some kind, some value => takeValue s rule kind value
    | _, _ => .ok s

/-- Scans arguments and fills in what the environment holds. There must be an operand. -/
def scanWith (rules : List OptionRule) (env : List (String × String)) (args : List String) :
    Except Stop (String × Scanned) := do
  let s ← scan rules .empty args
  let s ← rules.foldlM (takeVariable env) s
  match s.operands with
  | operand :: _ => return (operand, s)
  | [] => throw .wrong

end Mutagenesis.Command
