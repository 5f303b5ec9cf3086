import Countoff.Program

/-!
# Command line

Runs the programs on the real machine. The first argument names the program and the others are
its arguments; the log filter is taken from the environment.
-/

namespace Countoff

/-- The number of an error, which is given as it is or, by some actions, negated. -/
def systemNumber (number : UInt32) : UInt32 :=
  if number ≤ 0 - number then number else 0 - number

/-- What the operating system says of an error. -/
def systemText (number : UInt32) (details : String) : String :=
  s!"{details.capitalize} (os error {systemNumber number})"

/-- An error of the operating system as a storage problem. -/
def StorageProblem.ofError (error : IO.Error) : StorageProblem :=
  match error with
  | .noFileOrDirectory .. => .missing
  | .alreadyExists .. => .alreadyExists
  | .inappropriateType _ number _ =>
    if systemNumber number = 20 then .notDirectory else .isDirectory
  | .invalidArgument _ number details =>
    if systemNumber number = 36 then .nameTooLong else .other (systemText number details)
  | .permissionDenied _ number details | .resourceExhausted _ number details
  | .noSuchThing _ number details | .interrupted _ number details | .resourceBusy number details
  | .resourceVanished number details | .unsupportedOperation number details
  | .hardwareFault number details | .unsatisfiedConstraints number details
  | .illegalOperation number details | .protocolError number details
  | .timeExpired number details | .otherError number details =>
    .other (systemText number details)
  | .unexpectedEof | .userError _ => .other (toString error)

/-- The outcome of an action that the operating system may refuse. -/
def attempt {α : Type} (action : IO α) : IO (Except StorageProblem α) := do
  try
    return .ok (← action)
  catch error =>
    return .error (.ofError error)

/-- The outcome of an action on a path. One with a NUL in it is not passed on. -/
def attemptOn {α : Type} (path : String) (action : IO α) : IO (Except StorageProblem α) :=
  if '\x00' ∈ path.toList then return .error .nulInPath else attempt action

/-- Makes a directory, unless it exists. Nothing is made where the path exists already; then it is
only seen whether a directory is there. -/
def provideDirectory (path : List Char) : IO (Except StorageProblem Unit) := do
  let path := String.ofList path
  match ← attemptOn path (IO.FS.createDir path) with
  | .error .alreadyExists => attemptOn path (IO.FS.createDirAll path)
  | outcome => return outcome

/-- The machine that the process runs on. -/
def machine : Host IO where
  read path := do
    match ← attemptOn path (IO.FS.readBinFile path) with
    | .error problem => return .error problem
    | .ok content =>
      match String.fromUTF8? content with
      | some text => return .ok text
      | none => return .error .notText
  write path text := do
    match ← Path.provideParent provideDirectory path.toList with
    | .ok () => attemptOn path (IO.FS.writeFile path text)
    | .error problem => return .error problem
  print text := attempt do
    let output ← IO.getStdout
    output.putStr text
    output.flush
  remark remark := IO.eprintln remark.text

end Countoff

open Countoff in
/-- Runs the program that the first argument names. -/
def main (arguments : List String) : IO UInt32 := do
  let filter ← IO.getEnv "RUST_LOG"
  match arguments with
  | "fizzbuzz" :: arguments => return (← Program.byOptions machine filter arguments).toUInt32
  | "toml-fizzbuzz" :: arguments => return (← Program.byFile machine filter arguments).toUInt32
  | _ =>
    IO.eprintln "usage: countoff (fizzbuzz | toml-fizzbuzz) [OPTIONS]"
    return exitMisuse.toUInt32
