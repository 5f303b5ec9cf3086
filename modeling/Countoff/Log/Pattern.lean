import Countoff.Text.Alphanumeric
import Countoff.Text.Blank
import Countoff.Text.Hexadecimal

/-!
# Patterns

A filter may ask for spans by the value of a field, and gives that value as a number, a truth value
or a regular expression. There are no spans here, so nothing is ever matched; but a filter with a
text that is no pattern is no filter. `Pattern.isValid` tells the two apart.

A pattern is read once from the left. On the way the reader keeps the flags in force, what is open,
and how deep the parts of the pattern lie inside one another. Tables of Unicode classes and of case
are not at hand, so what needs them is refused: classes such as `\d`, word boundaries, and letters
whose case is to be ignored, each unless Unicode is switched off. A pattern matches whole characters
only, so without Unicode it may ask neither for bytes beyond ASCII nor for what is outside a set.
Braces do not occur: in a filter they end a field.
-/

namespace Countoff.Log.Pattern

/-! ## Flags -/

/-- The flags that decide whether a text is a pattern. -/
structure Flags where
  foldCase : Bool := false
  /-- Classes are those of Unicode, and what matches is a character rather than a byte. -/
  unicode : Bool := true
  /-- Blanks and comments between the parts of the pattern do not count. -/
  spaced : Bool := false

/-- The flags after one of them, given by its letter, is switched on or off. -/
def Flags.set (flags : Flags) (letter : Char) (on : Bool) : Flags :=
  if letter = 'i' then { flags with foldCase := on }
  else if letter = 'u' then { flags with unicode := on }
  else if letter = 'x' then { flags with spaced := on }
  else flags

def flagLetters : List Char := ['i', 'm', 's', 'U', 'u', 'R', 'x']

/-- Reads flags up to and with the colon or the bracket behind them. Each letter, and the dash that
switches off what follows it, may stand once; the dash is not the last of them. `before` holds what
has been read, the last first. -/
def readFlags? (before : List Char) (on : Bool) (flags : Flags) :
    List Char → Option (Flags × Char × List Char)
  | [] => none
  | c :: rest =>
    if c = ':' ∨ c = ')' then
      if before.head? = some '-' ∨ c = ')' ∧ before = [] then none else some (flags, c, rest)
    else if c ∈ before then none
    else if c = '-' then readFlags? (c :: before) false flags rest
    else if c ∈ flagLetters then readFlags? (c :: before) on (flags.set c on) rest
    else none

/-- The text without a comment at its beginning, or without the blanks and comments there. -/
def skipBlanks (inComment : Bool) : List Char → List Char
  | [] => []
  | c :: rest =>
    if inComment then skipBlanks (c ≠ '\n') rest
    else if Text.isBlank c then skipBlanks false rest
    else if c = '#' then skipBlanks true rest
    else c :: rest

/-- The text from where its next part begins. -/
def Flags.skip (flags : Flags) (cs : List Char) : List Char :=
  if flags.spaced then skipBlanks false cs else cs

/-! ## Single characters -/

/-- What an escape, or a character that stands for itself, comes to. -/
inductive Atom where
  /-- A character. `byte` tells whether it was given by the two digits of a byte. -/
  | literal (c : Char) (byte : Bool)
  /-- A class of characters with a letter of its own, or all others. -/
  | letterClass (negated : Bool)
  /-- A condition on a place in the text; `word` if it depends on what is a word. -/
  | condition (word : Bool)

/-- Reads so many hexadecimal digits behind others that have the value `n`. -/
def readHex? (flags : Flags) (n : Nat) : Nat → List Char → Option (Nat × List Char)
  | 0, cs => some (n, cs)
  | digits + 1, cs =>
    match flags.skip cs with
    | c :: rest => do readHex? flags (n * 16 + (← Text.hexDigit? c)) digits rest
    | [] => none

/-- Reads a character that is given by so many hexadecimal digits. -/
def readCode? (flags : Flags) (digits : Nat) (cs : List Char) : Option (Atom × List Char) := do
  let (n, rest) ← readHex? flags 0 digits cs
  guard n.isValidChar
  return (.literal (Char.ofNat n) (digits = 2), rest)

/-- The controls that go by a letter behind a backslash. -/
def control? : Char → Option Char
  | 'a' => some '\x07'
  | 't' => some '\t'
  | 'n' => some '\n'
  | 'v' => some '\x0b'
  | 'f' => some '\x0c'
  | 'r' => some '\r'
  | _ => none

/-- Whether a character may follow a backslash to stand for itself. -/
def isEscapable (c : Char) : Bool :=
  c.toNat < 0x80 && !c.isAlphanum && c ≠ '<' && c ≠ '>'

/-- Reads an escape from behind its backslash. -/
def readEscape? (flags : Flags) : List Char → Option (Atom × List Char)
  | [] => none
  | 'x' :: rest => readCode? flags 2 rest
  | 'u' :: rest => readCode? flags 4 rest
  | 'U' :: rest => readCode? flags 8 rest
  | c :: rest =>
    if isEscapable c then some (.literal c false, rest)
    else if c ∈ ['d', 's', 'w'] then some (.letterClass false, rest)
    else if c ∈ ['D', 'S', 'W'] then some (.letterClass true, rest)
    else if c ∈ ['A', 'z'] then some (.condition false, rest)
    else if c ∈ ['b', 'B', '<', '>'] then some (.condition true, rest)
    else (control? c).map fun c => (.literal c false, rest)

/-- Whether a class with a letter of its own may be asked for. -/
def Flags.allowsLetterClass (flags : Flags) (negated : Bool) : Bool :=
  !flags.unicode && !negated

/-- Whether a class with a name, or a set, may be asked for; `negated` if it is for what is
outside. -/
def Flags.allowsSet (flags : Flags) (negated : Bool) : Bool :=
  flags.unicode || !negated

/-- Whether an atom may be asked for, outside brackets. -/
def Flags.allows (flags : Flags) : Atom → Bool
  | .literal c byte => if flags.unicode then !flags.foldCase else !byte || c.toNat < 0x80
  | .letterClass negated => flags.allowsLetterClass negated
  | .condition word => !word || !flags.unicode

/-! ## Sets of characters in brackets -/

/-- What is known of a set. -/
structure Content where
  /-- How deep the sets lie in it. -/
  depth : Nat := 0
  /-- Whether any character was named. -/
  named : Bool := false

def Content.join (a b : Content) : Content where
  depth := max a.depth b.depth + 1
  named := a.named || b.named

/-- The greatest of some depths, one deeper if there are several. -/
def depthOf : List Nat → Nat
  | [] => 0
  | [depth] => depth
  | depths => depths.foldl max 0 + 1

/-- A set between brackets that is still open. -/
structure Bracket where
  negated : Bool
  /-- The parts behind the last operator, the last first. -/
  parts : List Content := []
  /-- What stands in front of the last operator. -/
  left : Option Content := none

namespace Bracket

def add (bracket : Bracket) (part : Content) : Bracket :=
  { bracket with parts := part :: bracket.parts }

/-- The set that has been read. -/
def content (bracket : Bracket) : Content :=
  let right : Content :=
    { depth := depthOf (bracket.parts.map Content.depth)
      named := bracket.parts.any Content.named }
  match bracket.left with
  | some left => left.join right
  | none => right

/-- The set behind another operator. -/
def operate (bracket : Bracket) : Bracket :=
  { bracket with parts := [], left := some bracket.content }

/-- The set as a part of another, if it may be asked for. -/
def close? (flags : Flags) (bracket : Bracket) : Option Content :=
  let content := bracket.content
  let folds := flags.unicode && flags.foldCase && content.named
  if flags.allowsSet bracket.negated && !folds then some { content with depth := content.depth + 1 }
  else none

end Bracket

/-- A single character as a part of a set. -/
def namedCharacter : Content where
  named := true

/-- Reads the dashes that stand for themselves at the beginning of a set. Every dash takes a
character. -/
def readDashes (flags : Flags) : Nat → Bracket → List Char → Bracket × List Char
  | fuel + 1, bracket, '-' :: rest =>
    readDashes flags fuel (bracket.add namedCharacter) (flags.skip rest)
  | _, bracket, cs => (bracket, cs)

/-- Reads the beginning of a set from behind its opening bracket. A closing bracket that comes first
stands for itself. -/
def openBracket (flags : Flags) (cs : List Char) : Bracket × List Char :=
  let (negated, cs) :=
    match flags.skip cs with
    | '^' :: rest => (true, flags.skip rest)
    | cs => (false, cs)
  match cs with
  | ']' :: rest => (Bracket.add { negated } namedCharacter, rest)
  | cs => readDashes flags cs.length { negated } cs

/-- The classes that go by a name in brackets. -/
def classNames : List String :=
  ["alnum", "alpha", "ascii", "blank", "cntrl", "digit", "graph", "lower", "print", "punct",
    "space", "upper", "word", "xdigit"]

/-- Reads a class by its name from behind its opening bracket, and tells whether it is of all other
characters. -/
def readNamedClass? : List Char → Option (Bool × List Char)
  | ':' :: cs =>
    let (negated, cs) :=
      match cs with
      | '^' :: rest => (true, rest)
      | cs => (false, cs)
    let name := cs.takeWhile (· ≠ ':')
    match cs.drop name.length with
    | ':' :: ']' :: rest =>
      if String.ofList name ∈ classNames then some (negated, rest) else none
    | _ => none
  | _ => none

/-- Reads an atom in a set. Only the backslash has a meaning there. -/
def readAtom? (flags : Flags) : List Char → Option (Atom × List Char)
  | [] => none
  | '\\' :: rest => readEscape? flags rest
  | c :: rest => some (.literal c false, rest)

/-- The character of an atom in a set, if it has one that may be asked for. -/
def memberOf? (flags : Flags) : Atom → Option Char
  | .literal c _ => if flags.unicode || c.toNat < 0x80 then some c else none
  | _ => none

/-- The character by which a dash in front of the text is told from one between two characters.
Of a comment, only the mark at its beginning is left out. -/
def Flags.peek? (flags : Flags) (cs : List Char) : Option Char :=
  if flags.spaced then
    match cs.dropWhile Text.isBlank with
    | '#' :: rest => (rest.dropWhile Text.isBlank).head?
    | cs => cs.head?
  else cs.head?

/-- Reads one part of a set: a class, a character, or all characters from one to another. -/
def readPart? (flags : Flags) (cs : List Char) : Option (Content × List Char) := do
  let (first, rest) ← readAtom? flags cs
  let single : Option (Content × List Char) :=
    match first with
    | .letterClass negated =>
      if flags.allowsLetterClass negated then some (namedCharacter, rest) else none
    | atom => (memberOf? flags atom).map fun _ => (namedCharacter, rest)
  match flags.skip rest with
  | [] => none
  | '-' :: rest =>
    let next ← flags.peek? rest
    if next = ']' ∨ next = '-' then single
    else
      let (last, rest) ← readAtom? flags (flags.skip rest)
      let first ← memberOf? flags first
      let last ← memberOf? flags last
      if first ≤ last then some (namedCharacter, rest) else none
  | _ => single

/-- Reads a set up to and with its closing bracket; `outer` are the sets around it, the innermost
first. Every step takes a character. -/
def readSet? (flags : Flags) :
    Nat → List Bracket → Bracket → List Char → Option (Content × List Char)
  | 0, _, _, _ => none
  | fuel + 1, outer, bracket, cs =>
    match flags.skip cs with
    | [] => none
    | '[' :: rest =>
      match readNamedClass? rest with
      | some (negated, rest) =>
        if flags.allowsSet negated then
          readSet? flags fuel outer (bracket.add namedCharacter) rest
        else none
      | none =>
        let (inner, rest) := openBracket flags rest
        readSet? flags fuel (bracket :: outer) inner rest
    | ']' :: rest => do
      let part ← bracket.close? flags
      match outer with
      | [] => return (part, rest)
      | around :: outer => readSet? flags fuel outer (around.add part) rest
    | '&' :: '&' :: rest | '-' :: '-' :: rest | '~' :: '~' :: rest =>
      readSet? flags fuel outer bracket.operate rest
    | cs => do
      let (part, rest) ← readPart? flags cs
      readSet? flags fuel outer (bracket.add part) rest

/-! ## Whole patterns -/

/-- What has been read of a group, or of the pattern around all groups. -/
structure Group where
  flags : Flags := {}
  /-- The depths of the parts behind the last bar, the last first. Flags alone are a part without
  one. -/
  parts : List (Option Nat) := []
  /-- The depths of what stands between the bars in front. -/
  branches : List Nat := []

namespace Group

def add (group : Group) (depth : Nat) : Group :=
  { group with parts := some depth :: group.parts }

def branch (group : Group) : Nat :=
  depthOf (group.parts.map (·.getD 0))

def depth (group : Group) : Nat :=
  depthOf (group.branch :: group.branches)

/-- The group behind another bar. -/
def bar (group : Group) : Group :=
  { group with parts := [], branches := group.branch :: group.branches }

/-- Repeats the last part, if there is one that can be repeated. -/
def repeatLast? (group : Group) : Option Group :=
  match group.parts with
  | some depth :: parts => some { group with parts := some (depth + 1) :: parts }
  | _ => none

end Group

/-- A pattern that has been read in part. -/
structure State where
  group : Group := {}
  /-- The groups around it, the innermost first. -/
  outer : List Group := []
  names : List (List Char) := []

def isNameChar (c : Char) : Bool :=
  c = '_' || c = '.' || c = '[' || c = ']' || Text.isAlphanumeric c

def isName : List Char → Bool
  | [] => false
  | c :: rest => (c = '_' || Text.isAlphabetic c) && rest.all isNameChar

namespace State

/-- Opens a group with flags of its own. -/
def openGroup (state : State) (flags : Flags) : State :=
  { state with group := { flags }, outer := state.group :: state.outer }

/-- Closes the innermost group. The flags from in front of it are in force again. -/
def closeGroup? (state : State) : Option State :=
  match state.outer with
  | [] => none
  | around :: outer => some { state with group := around.add (state.group.depth + 1), outer }

/-- Opens a group by its name, which stands in front of an angle bracket. -/
def openNamed? (state : State) (cs : List Char) : Option (State × List Char) :=
  let name := cs.takeWhile (· ≠ '>')
  match cs.drop name.length with
  | '>' :: rest =>
    if isName name && !state.names.contains name then
      some ({ state.openGroup state.group.flags with names := name :: state.names }, rest)
    else none
  | _ => none

/-- Reads what begins with a bracket, from behind it. -/
def readGroup? (state : State) (cs : List Char) : Option (State × List Char) :=
  let group := state.group
  match group.flags.skip cs with
  | '?' :: 'P' :: '<' :: rest => state.openNamed? rest
  | '?' :: '<' :: rest => state.openNamed? rest
  | '?' :: rest => do
    let (flags, mark, rest) ← readFlags? [] true group.flags rest
    if mark = ':' then return (state.openGroup flags, rest)
    else return ({ state with group := { group with flags, parts := none :: group.parts } }, rest)
  | rest => some (state.openGroup group.flags, rest)

/-- Adds a part without parts of its own, if it may be asked for. -/
def addAtom? (state : State) (allowed : Bool) (rest : List Char) : Option (State × List Char) :=
  if allowed then some ({ state with group := state.group.add 0 }, rest) else none

/-- Reads the next part of a pattern. -/
def readNext? (state : State) : List Char → Option (State × List Char)
  | [] => some (state, [])
  | '(' :: rest => state.readGroup? rest
  | ')' :: rest => do return (← state.closeGroup?, rest)
  | '|' :: rest => some ({ state with group := state.group.bar }, rest)
  | '[' :: rest => do
    let (bracket, rest) := openBracket state.group.flags rest
    let (content, rest) ← readSet? state.group.flags (rest.length + 1) [] bracket rest
    return ({ state with group := state.group.add content.depth }, rest)
  | '{' :: _ => none
  | '\\' :: rest => do
    let (atom, rest) ← readEscape? state.group.flags rest
    state.addAtom? (state.group.flags.allows atom) rest
  | c :: rest =>
    if c = '?' ∨ c = '*' ∨ c = '+' then do
      let group ← state.group.repeatLast?
      return ({ state with group }, if rest.head? = some '?' then rest.drop 1 else rest)
    else if c = '^' ∨ c = '$' then state.addAtom? true rest
    else if c = '.' then state.addAtom? state.group.flags.unicode rest
    else state.addAtom? (state.group.flags.allows (.literal c false)) rest

end State

/-- How deep the parts of a pattern may lie inside one another. -/
def maxDepth : Nat := 250

/-- Reads a pattern to its end. Every step takes a character. -/
def readAll? : Nat → State → List Char → Option State
  | 0, _, _ => none
  | fuel + 1, state, cs =>
    match state.group.flags.skip cs with
    | [] => some state
    | cs => do
      let (state, rest) ← state.readNext? cs
      readAll? fuel state rest

/-- Whether a text is a regular expression. -/
def isRegular (cs : List Char) : Bool :=
  match readAll? (cs.length + 1) {} cs with
  | some state => state.outer.isEmpty && state.group.depth ≤ maxDepth
  | none => false

/-! ## Numbers -/

def isExponent : List Char → Bool
  | [] => true
  | e :: rest =>
    let digits :=
      match rest with
      | '+' :: digits | '-' :: digits => digits
      | digits => digits
    (e = 'e' || e = 'E') && !digits.isEmpty && digits.all Char.isDigit

def isMagnitude (cs : List Char) : Bool :=
  let word := String.ofList (cs.map Char.toLower)
  let whole := cs.takeWhile Char.isDigit
  let (fraction, rest) :=
    match cs.drop whole.length with
    | '.' :: rest => rest.span Char.isDigit
    | rest => ([], rest)
  word = "inf" || word = "infinity" || word = "nan" ||
    (!(whole.isEmpty && fraction.isEmpty) && isExponent rest)

/-- Whether a text can stand for the value of a field. A number without a plus sign in front is a
regular expression anyhow, and so are the truth values. -/
def isValid (cs : List Char) : Bool :=
  match cs with
  | '+' :: rest => isMagnitude rest || isRegular cs
  | cs => isRegular cs

end Countoff.Log.Pattern
