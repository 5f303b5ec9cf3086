import Countoff.Path
import Countoff.Storage

/-!
# File trees

The files and directories below a working directory, without links, permissions or limits on
space. A tree is a list of routes, each with the file or the directory that it leads to; a route
is the list of names from the working directory down. The working directory itself is always a
directory, and the way up from it leads nowhere.

Paths are resolved from the left, one segment at a time, and every segment but the last has to
lead to a directory. Making a directory, opening a file and reading one differ in what they do
with the last segment. No operation removes anything.
-/

namespace Countoff

/-- The names from the working directory down to a file or a directory. -/
abbrev Route := List String

/-- What stands in a tree. -/
inductive FileTree.Node where
  | directory
  | file (content : ByteArray)

instance : DecidableEq FileTree.Node
  | .directory, .directory => isTrue rfl
  | .directory, .file _ => isFalse nofun
  | .file _, .directory => isFalse nofun
  | .file a, .file b =>
    decidable_of_iff (a.data = b.data)
      ⟨fun h => congrArg FileTree.Node.file (ByteArray.ext h), fun h => by cases h; rfl⟩

/-- Files and directories by their routes, each of which leads to one of them. -/
structure FileTree where
  nodes : List (Route × FileTree.Node)
  distinct : nodes.Pairwise fun a b => a.1 ≠ b.1
  deriving DecidableEq

namespace FileTree

def empty : FileTree := ⟨[], .nil⟩

def at? (tree : FileTree) : Route → Option Node
  | [] => some .directory
  | route => tree.nodes.lookup route

/-- Puts a node at a route, in place of what stood there. -/
def put (tree : FileTree) (route : Route) (node : Node) : FileTree where
  nodes := (route, node) :: tree.nodes.filter fun other => other.1 ≠ route
  distinct :=
    .cons (fun other h => by simpa using Ne.symm (by simpa using (List.mem_filter.1 h).2))
      (tree.distinct.filter _)

/-! ## Resolving paths -/

/-- The most bytes in the name of a file. -/
def maxName : Nat := 255

/-- A path has fewer bytes than this. -/
def maxPath : Nat := 4096

def bytes (cs : List Char) : Nat :=
  (String.ofList cs).utf8ByteSize

/-- Follows one segment to a directory. -/
def step (tree : FileTree) (here : Route) (segment : List Char) : Except StorageProblem Route :=
  if Path.isIdle segment then .ok here
  else if segment = ['.', '.'] then .ok here.dropLast
  else if maxName < bytes segment then .error .nameTooLong
  else
    let route := here ++ [String.ofList segment]
    match tree.at? route with
    | none => .error .missing
    | some (.file _) => .error .notDirectory
    | some .directory => .ok route

def descend (tree : FileTree) (segments : List (List Char)) : Except StorageProblem Route :=
  segments.foldlM tree.step []

/-- Where the last segment of a path leads. -/
inductive Goal where
  /-- To a directory that was reached on the way: the segment is a dot, two dots or nothing. -/
  | reached (route : Route)
  /-- To a name in a directory. `slash` tells whether a slash stands behind the name. -/
  | named (route : Route) (name : List Char) (slash : Bool)

/-- The segments of a path without the empty ones at its end. -/
def names (path : List Char) : List (List Char) :=
  ((Path.segments path).reverse.dropWhile List.isEmpty).reverse

/-- The goal of a path, from the directory that its last name stands in. -/
def goalIn (here : Route) (path : List Char) : Goal :=
  match (names path).getLast? with
  | none => .reached here
  | some name =>
    if name = ['.'] then .reached here
    else if name = ['.', '.'] then .reached here.dropLast
    else
      .named (here ++ [String.ofList name]) name
        ((names path).length < (Path.segments path).length)

/-- Resolves a path up to its last segment that is not empty. The limits on the text of a path come
first. -/
def goal (tree : FileTree) (path : List Char) : Except StorageProblem Goal :=
  if '\x00' ∈ path then .error .nulInPath
  else if path = [] then .error .missing
  else if maxPath ≤ bytes path then .error .nameTooLong
  else (tree.descend (names path).dropLast).map fun here => goalIn here path

/-! ## Operations -/

def isDirectory (tree : FileTree) (path : List Char) : Bool :=
  match tree.goal path with
  | .ok (.reached _) => true
  | .ok (.named route _ _) => tree.at? route = some .directory
  | .error _ => false

/-- Makes one directory, in a directory that exists. -/
def makeDirectory (tree : FileTree) (path : List Char) : Except StorageProblem FileTree :=
  match tree.goal path with
  | .error problem => .error problem
  | .ok (.reached _) => .error .alreadyExists
  | .ok (.named route name _) =>
    if maxName < bytes name then .error .nameTooLong
    else if (tree.at? route).isSome then .error .alreadyExists
    else .ok (tree.put route .directory)

/-- Makes one directory, unless it exists. A tree in which that fails stays as it is. -/
def provide (path : List Char) : StateM FileTree (Except StorageProblem Unit) := fun tree =>
  match tree.makeDirectory path with
  | .ok tree => (.ok (), tree)
  | .error problem => (if tree.isDirectory path then .ok () else .error problem, tree)

/-- Gives a file its whole content, and makes the file if there is none. -/
def writeFile (tree : FileTree) (path : List Char) (content : ByteArray) :
    Except StorageProblem FileTree :=
  match tree.goal path with
  | .error problem => .error problem
  | .ok (.reached _) => .error .isDirectory
  | .ok (.named route name slash) =>
    if slash then .error .isDirectory
    else if maxName < bytes name then .error .nameTooLong
    else
      match tree.at? route with
      | some .directory => .error .isDirectory
      | _ => .ok (tree.put route (.file content))

/-- Gives a file its whole content, for which the directories above it are made first. They stay
even if the file cannot be written. -/
def store (path : List Char) (content : ByteArray) :
    StateM FileTree (Except StorageProblem Unit) := do
  match ← Path.provideParent provide path with
  | .error problem => return .error problem
  | .ok () => fun tree =>
    match tree.writeFile path content with
    | .ok tree => (.ok (), tree)
    | .error problem => (.error problem, tree)

/-- Writes a text to a file. -/
def write (path text : String) : StateM FileTree (Except StorageProblem Unit) :=
  store path.toList text.toUTF8

def readFile (tree : FileTree) (path : List Char) : Except StorageProblem ByteArray :=
  match tree.goal path with
  | .error problem => .error problem
  | .ok (.reached _) => .error .isDirectory
  | .ok (.named route name slash) =>
    if maxName < bytes name then .error .nameTooLong
    else
      match tree.at? route with
      | none => .error .missing
      | some .directory => .error .isDirectory
      | some (.file content) => if slash then .error .notDirectory else .ok content

/-- The text of a file, which has to be UTF-8. -/
def read (tree : FileTree) (path : String) : Except StorageProblem String :=
  match tree.readFile path.toList with
  | .error problem => .error problem
  | .ok content =>
    match String.fromUTF8? content with
    | some text => .ok text
    | none => .error .notText

end FileTree

end Countoff
