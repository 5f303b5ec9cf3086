import Countoff.Text.Numeral
import Countoff.Text.Plain

/-!
# Options on a command line

A grammar is a list of options, each with what it does to a configuration. A value may follow its
option behind an equals sign or as the next argument; a next argument that begins with a dash is a
value only if it is a dash alone, or a number where the option allows negative ones. An option may
be given once. Arguments are read from the left and the first misuse is reported, with one
exception: a value is looked at only when the next option or the end of the line is reached, so an
argument that means nothing is reported before a bad value in front of it.
-/

namespace Countoff.CommandLine

/-- Why a value does not fit its option. -/
inductive Refusal where
  /-- The value is empty where that counts as no value. -/
  | absent
  /-- The value is not one of the possible ones. -/
  | foreign
  | numeral (problem : NumeralProblem)
  deriving DecidableEq

/-- What an option takes, and what it does to a configuration of type `α`. -/
inductive Kind (α : Type) where
  | flag (set : α → α)
  /-- `placeholder` names the value; `negative` tells whether a separate value may be a negative
  number. -/
  | value (placeholder : String) (negative : Bool) (read : String → Except Refusal (α → α))
  | help

/-- An option, with its long name and perhaps a letter. -/
structure Opt (α : Type) where
  name : String
  letter : Option Char
  kind : Kind α

/-- How a command line was misused. Options are named as messages name them. -/
inductive Misuse where
  | unexpectedArgument (argument : String)
  | missingValue (option : String)
  | invalidValue (value option : String)
  | invalidNumeral (value option : String) (problem : NumeralProblem)
  | repeated (option : String)
  | unexpectedValue (value option : String)
  deriving DecidableEq

/-- Why there is no configuration: the command line was misused, or it asks for help, in detail
with the long name of the option. -/
inductive Stop where
  | misuse (misuse : Misuse)
  | help (detailed : Bool)
  deriving DecidableEq

/-- The wording of a misuse; `plain` says how to show what the user gave. -/
def Misuse.textBy (plain : String → String) : Misuse → String
  | .unexpectedArgument argument => s!"error: unexpected argument '{plain argument}' found"
  | .missingValue option => s!"error: a value is required for '{option}' but none was supplied"
  | .invalidValue value option => s!"error: invalid value '{plain value}' for '{option}'"
  | .invalidNumeral value option problem =>
    s!"error: invalid value '{plain value}' for '{option}': {problem.text}"
  | .repeated option => s!"error: the argument '{option}' cannot be used multiple times"
  | .unexpectedValue value option =>
    s!"error: unexpected value '{plain value}' for '{option}' found; no more were expected"

def Misuse.text : Misuse → String :=
  textBy Text.plain

/-- The message of a misuse for the person at the terminal. -/
def Misuse.notice : Misuse → String :=
  textBy Text.plainStream

def Opt.display {α : Type} (opt : Opt α) : String :=
  match opt.kind with
  | .value placeholder _ _ => s!"--{opt.name} <{placeholder}>"
  | _ => s!"--{opt.name}"

/-- An option whose effect is still to come, with its value if that has been read. -/
structure Pending (α : Type) where
  opt : Opt α
  value : Option String

/-- What has been read of a command line. -/
structure State (α : Type) where
  seen : List String
  config : α
  pending : Option (Pending α)
  /-- Whether two dashes have been read, behind which nothing is an option. -/
  trailing : Bool

/-- The outcome of reading. -/
abbrev Reading (α : Type) := Except Stop α

section Reading

variable {α : Type}

def fail {β : Type} (misuse : Misuse) : Reading β :=
  .error (.misuse misuse)

/-- The effect of an option with its value. -/
def Opt.effect (opt : Opt α) (value : Option String) : Reading (α → α) :=
  match opt.kind, value with
  | .value _ _ read, some value =>
    match read value with
    | .ok set => .ok set
    | .error .absent => fail (.missingValue opt.display)
    | .error .foreign => fail (.invalidValue value opt.display)
    | .error (.numeral problem) => fail (.invalidNumeral value opt.display problem)
  | .value .., none => fail (.missingValue opt.display)
  | .flag set, _ => .ok set
  | .help, _ => .ok id

def Opt.takesValue (opt : Opt α) : Bool :=
  match opt.kind with
  | .value .. => true
  | _ => false

/-- Whether an option lets a negative number follow as its value. -/
def Opt.allowsNegative (opt : Opt α) : Bool :=
  match opt.kind with
  | .value _ negative _ => negative
  | _ => false

/-- Gives an option its effect. That a value is missing is seen first, then that the option was
given before, and last whether the value fits. -/
def State.give (state : State α) (opt : Opt α) (value : Option String) : Reading (State α) :=
  if opt.takesValue ∧ value = none then fail (.missingValue opt.display)
  else if opt.name ∈ state.seen then fail (.repeated opt.display)
  else do
    let set ← opt.effect value
    return { state with seen := opt.name :: state.seen, config := set state.config }

def State.settle (state : State α) : Reading (State α) :=
  match state.pending with
  | none => .ok state
  | some pending => { state with pending := none }.give pending.opt pending.value

/-- Reads an option whose value, if it takes one, has been read. -/
def State.take (state : State α) (opt : Opt α) (value : Option String) (long : Bool) :
    Reading (State α) := do
  let state ← state.settle
  match opt.kind with
  | .help => .error (.help long)
  | _ => state.give opt value

/-- Reads an option whose value is to follow. -/
def State.await (state : State α) (opt : Opt α) : Reading (State α) := do
  let state ← state.settle
  return { state with pending := some ⟨opt, none⟩ }

/-- Reads the name of an option, with the value behind its equals sign if there is one. -/
def State.takeLong (grammar : List (Opt α)) (state : State α) (name : List Char)
    (value : Option (List Char)) : Reading (State α) :=
  match grammar.find? fun opt => opt.name.toList = name with
  | none => fail (.unexpectedArgument (String.ofList ('-' :: '-' :: name)))
  | some opt =>
    match opt.takesValue, value with
    | true, some value => state.take opt (some (String.ofList value)) true
    | true, none => state.await opt
    | false, some value => fail (.unexpectedValue (String.ofList value) opt.display)
    | false, none => state.take opt none true

/-- The value of an option given by its letter: what stands behind the letter, with or without an
equals sign in front. -/
def attachedValue : List Char → List Char
  | '=' :: value => value
  | value => value

/-- Reads options given by letters. The letters behind an option with a value are its value. -/
def State.takeLetters (grammar : List (Opt α)) (state : State α) : List Char → Reading (State α)
  | [] => .ok state
  | c :: rest =>
    match grammar.find? fun opt => opt.letter = some c with
    | none => fail (.unexpectedArgument (String.ofList ['-', c]))
    | some opt =>
      if opt.takesValue then
        if rest.isEmpty then state.await opt
        else state.take opt (some (String.ofList (attachedValue rest))) false
      else do
        let state ← state.take opt none false
        state.takeLetters grammar rest

/-- Reads an argument that is no option: a value, if one is awaited. -/
def State.takePlain (state : State α) (argument : String) : Reading (State α) :=
  match state.pending with
  | some ⟨opt, none⟩ => .ok { state with pending := some ⟨opt, some argument⟩ }
  | _ => fail (.unexpectedArgument argument)

/-- Whether a text looks like a number without its sign: digits, perhaps a point and more digits,
perhaps an exponent without a sign. -/
def isNumber (cs : List Char) : Bool :=
  let rest := cs.dropWhile Char.isDigit
  let rest :=
    match rest with
    | '.' :: rest => rest.dropWhile Char.isDigit
    | rest => rest
  cs.head?.any Char.isDigit &&
    match rest with
    | [] => true
    | e :: exponent => (e = 'e' || e = 'E') && !exponent.isEmpty && exponent.all Char.isDigit

/-- Whether the option that awaits its value would take a number behind a dash. -/
def State.takesNegative (state : State α) : Bool :=
  match state.pending with
  | some ⟨opt, none⟩ => opt.allowsNegative
  | _ => false

def State.read (grammar : List (Opt α)) (state : State α) (argument : String) :
    Reading (State α) :=
  if state.trailing then fail (.unexpectedArgument argument)
  else
    match argument.toList with
    | ['-', '-'] => .ok { state with trailing := true }
    | '-' :: '-' :: rest =>
      let name := rest.takeWhile (· ≠ '=')
      state.takeLong grammar name <|
        match rest.drop name.length with
        | _ :: value => some value
        | [] => none
    | '-' :: c :: rest =>
      if state.takesNegative && isNumber (c :: rest) then state.takePlain argument
      else state.takeLetters grammar (c :: rest)
    | _ => state.takePlain argument

/-- Reads a command line into a configuration, starting from its usual values. -/
def read (grammar : List (Opt α)) (usual : α) (arguments : List String) : Reading α := do
  let state ← arguments.foldlM (State.read grammar) ⟨[], usual, none, false⟩
  let state ← state.settle
  return state.config

end Reading

end Countoff.CommandLine
