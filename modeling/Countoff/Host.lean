import Countoff.FileTree
import Countoff.Log
import Countoff.Outlet

/-!
# Hosts

What a program needs of the machine that it runs on: files to read and to write, a place for its
output, and another for what it has to say about itself. `Session.host` is a host in memory, whose
whole state can be seen.
-/

namespace Countoff

/-- One thing that a program says about itself. -/
inductive Remark where
  /-- Something for the log. -/
  | log (event : Log.Event)
  /-- Something for the person at the terminal. -/
  | notice (text : String)
  deriving DecidableEq

def Remark.text : Remark → String
  | .log event => event.line
  | .notice text => text

/-- A machine to run on, with effects in `m`. -/
structure Host (m : Type → Type) where
  read : String → m (Except StorageProblem String)
  /-- Gives a file its whole text, and makes the directories above it. -/
  write : String → String → m (Except StorageProblem Unit)
  print : String → m (Except StorageProblem Unit)
  remark : Remark → m Unit

namespace Host

variable {m : Type → Type} [Monad m]

/-- Standard output as an outlet. -/
def standardOutput (host : Host m) : Outlet m where
  write text := return (← host.print text).mapError Fault.storage
  describe := return "stdout"

def file (host : Host m) (path : String) : Outlet m where
  write text := return (← host.write path text).mapError Fault.storage
  describe := return path

/-- The outlet for a path, or for none. -/
def outlet (host : Host m) : Option String → Outlet m
  | some path => host.file path
  | none => host.standardOutput

end Host

/-- A machine in memory, with what a program has done to it. -/
structure Session where
  tree : FileTree
  /-- All that was printed. -/
  printed : String
  remarks : List Remark
  /-- In what words standard output refuses all that is printed, if it does. -/
  refusal : Option String
  deriving DecidableEq

namespace Session

/-- What a program finds. Standard output takes all that is printed. -/
def start (tree : FileTree) : Session :=
  ⟨tree, "", [], none⟩

/-- A host in memory. -/
def host : Host (StateM Session) where
  read path := fun session => (session.tree.read path, session)
  write path text := fun session =>
    let (outcome, tree) := FileTree.write path text session.tree
    (outcome, { session with tree })
  print text := fun session =>
    match session.refusal with
    | some words => (.error (.other words), session)
    | none => (.ok (), { session with printed := session.printed ++ text })
  remark remark := fun session => ((), { session with remarks := session.remarks ++ [remark] })

end Session

end Countoff
