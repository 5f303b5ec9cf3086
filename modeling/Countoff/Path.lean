import Countoff.Storage

/-!
# Paths

A path is a text that slashes divide into segments. An empty segment says nothing, and neither
does a dot, except as the first segment; the others are the steps of the path. The parent of a
path is the path without its last step and whatever says nothing around it.

Where the directories above a path are missing, they are made from the top down. What it takes to
make one directory is left open here, so the same rule serves every kind of storage.
-/

namespace Countoff.Path

/-- The segments of a path, in order. There is always at least one. -/
def segments : List Char → List (List Char)
  | [] => [[]]
  | c :: rest =>
    match segments rest with
    | [] => [[c]]
    | segment :: later => if c = '/' then [] :: segment :: later else (c :: segment) :: later

def join (segments : List (List Char)) : List Char :=
  ['/'].intercalate segments

/-- Whether a segment other than the first says nothing. -/
def isIdle (segment : List Char) : Bool :=
  segment = [] || segment = ['.']

/-- Segments behind the first, without those at their end that say nothing. -/
def trimEnd (segments : List (List Char)) : List (List Char) :=
  (segments.reverse.dropWhile isIdle).reverse

/-- The parent of a path. Only a path without a step has none; the parent of a single step is the
empty path. -/
def parent? (path : List Char) : Option (List Char) :=
  match segments path with
  | [] => none
  | first :: later =>
    match trimEnd later with
    | [] => if first = [] then none else some []
    | steps =>
      let above := trimEnd steps.dropLast
      if above = [] ∧ first = [] then some ['/'] else some (join (first :: above))

/-- Provides the directory at a path: where it cannot be made because one above it is missing,
that one is provided first. `make` makes a single directory, unless it exists; `fuel` bounds how
many are made. The empty path needs no directory. -/
def provideAll {m : Type → Type} [Monad m] (make : List Char → m (Except StorageProblem Unit)) :
    Nat → List Char → m (Except StorageProblem Unit)
  | _, [] => return .ok ()
  | 0, _ => return .error .missing
  | fuel + 1, path => do
    match ← make path with
    | .error .missing =>
      match parent? path with
      | none => return .error .missing
      | some parent =>
        match ← provideAll make fuel parent with
        | .error problem => return .error problem
        | .ok () => make path
    | outcome => return outcome

/-- Provides the directory that a path stands in. A parent has fewer characters than its path, so
the length of the path is fuel enough. -/
def provideParent {m : Type → Type} [Monad m] (make : List Char → m (Except StorageProblem Unit))
    (path : List Char) : m (Except StorageProblem Unit) :=
  provideAll make path.length ((parent? path).getD [])

end Countoff.Path
