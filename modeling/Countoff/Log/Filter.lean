import Countoff.Log
import Countoff.Log.Pattern

/-!
# Log filters

A filter is a list of directives with commas between them. A directive sets the most verbose level
for the events whose target begins with its own: `fizzbuzz=debug`, or `debug` for every target, or
a target alone for all of its events. It may also name a field that the events have to have, as
every event has `message`. Of the directives that match an event the one with the longest target
decides, of several for one target one that names a field, and of two alike the later one; an event
that none matches is not written. A directive for spans, which gives the name of a span or the value
of a field, is accepted and matches no event, for there are no spans here. A text that is not a
filter has no meaning at all: `Filter.parse?` refuses it as a whole.
-/

namespace Countoff.Log

/-- Sets the most verbose level for one target, or for all of them, and for the events that have
a field, or for all of those. -/
structure Directive where
  target : Option String
  field : Option String
  /-- The rank of the most verbose level that is written; zero for none. -/
  verbosity : Nat
  deriving DecidableEq

/-- Which events are written. -/
structure Filter where
  directives : List Directive
  deriving DecidableEq

namespace Filter

/-- The rank of a level given by its name in any case, or by its number. -/
def verbosity? (cs : List Char) : Option Nat :=
  let digits := match cs with
    | '+' :: rest => rest
    | _ => cs
  if digits ≠ [] ∧ digits.all Char.isDigit then
    let n := Nat.ofDigitChars 10 digits 0
    if n ≤ 5 then some n else none
  else
    match String.ofList (cs.map Char.toLower) with
    | "off" => some 0
    | "error" => some 1
    | "warn" => some 2
    | "info" => some 3
    | "debug" => some 4
    | "trace" => some 5
    | _ => none

/-- The rank behind an equals sign; nothing behind it allows every level. -/
def verbosityAfterEquals? (cs : List Char) : Option Nat :=
  if cs.isEmpty then some Level.trace.rank else verbosity? cs

def isTargetStart (c : Char) : Bool :=
  c = '-' || c = ':' || c = '_' || Text.isAlphanumeric c

/-! ## Places in a text

A directive is taken apart without the blanks around it. The places of its parts, in bytes, are then
looked up in the text with the blanks, so that blanks in front move every part to the left.
-/

def size : List Char → Nat
  | [] => 0
  | c :: cs => c.utf8Size + size cs

/-- The text behind so many bytes, if a character begins there. -/
def dropBytes? (n : Nat) : List Char → Option (List Char)
  | [] => if n = 0 then some [] else none
  | c :: cs =>
    if n = 0 then some (c :: cs)
    else if c.utf8Size ≤ n then dropBytes? (n - c.utf8Size) cs
    else none

/-- The first so many bytes of a text, if a character ends there. -/
def takeBytes? (n : Nat) : List Char → Option (List Char)
  | [] => if n = 0 then some [] else none
  | c :: cs =>
    if n = 0 then some []
    else if c.utf8Size ≤ n then (takeBytes? (n - c.utf8Size) cs).map (c :: ·)
    else none

/-- So many bytes of a text from a place on. -/
def slice? (cs : List Char) (start length : Nat) : Option (List Char) :=
  (dropBytes? start cs).bind (takeBytes? length)

/-! ## Directives -/

/-- What a directive of a filter comes to: a directive for events, or none if it is for spans. -/
inductive Part where
  | events (directive : Directive)
  | spans

/-- The rank that a directive gives behind its brackets, where `tail` stands at a place. -/
def verbosityBehind? (piece : List Char) (place : Nat) (tail : List Char) : Option Nat :=
  match tail with
  | [] => some Level.trace.rank
  | '=' :: _ => (dropBytes? (place + 1) piece).bind verbosityAfterEquals?
  | _ => none

/-- Reads what a directive asks of a field: that there is one with a name, or that it has a value,
which only a span can have. -/
def readField? (target : Option String) (verbosity : Nat) (text : List Char) : Option Part :=
  let name := text.takeWhile (· ≠ '=')
  match text.drop name.length with
  | [] => some (.events ⟨target, some (String.ofList name), verbosity⟩)
  | _ :: value => if Pattern.isValid (value.takeWhile (· ≠ '=')) then some .spans else none

/-- Reads a directive from behind its opening bracket, where `rest` stands at a place. -/
def readBrackets? (piece : List Char) (target : Option String) (place : Nat) (rest : List Char) :
    Option Part :=
  let span := rest.takeWhile fun c => c ≠ ']' && c ≠ '\x7b'
  let place := place + size span + 1
  match rest.drop span.length with
  | ']' :: tail => (verbosityBehind? piece place tail).map fun _ => .spans
  | '\x7b' :: rest =>
    let field := rest.takeWhile (· ≠ '\x7d')
    match rest.drop field.length with
    | '\x7d' :: ']' :: tail => do
      guard (field ≠ [])
      let verbosity ← verbosityBehind? piece (place + size field + 2) tail
      let part ← readField? target verbosity (← slice? piece place (size field))
      return if span = [] then part else .spans
    | _ => none
  | _ => none

def readPart? (piece : List Char) : Option Part :=
  let blanks := piece.takeWhile Text.isBlank
  let body := ((piece.drop blanks.length).reverse.dropWhile Text.isBlank).reverse
  let name := body.takeWhile fun c => c ≠ '=' && c ≠ '['
  match body with
  | [] => none
  | '[' :: rest => readBrackets? piece none 1 rest
  | first :: _ =>
    if !isTargetStart first then none
    else
      match body.drop name.length with
      | [] =>
        match verbosity? piece with
        | some verbosity => some (.events ⟨none, none, verbosity⟩)
        | none => some (.events ⟨some (String.ofList piece), none, Level.trace.rank⟩)
      | '=' :: _ => do
        let target ← slice? piece 0 (size name)
        let verbosity ← verbosityAfterEquals? (← dropBytes? (size name + 1) piece)
        return .events ⟨some (String.ofList target), none, verbosity⟩
      | _ :: rest => do
        let target ← slice? piece 0 (size name)
        readBrackets? piece (some (String.ofList target)) (size name + 1) rest

def pieces : List Char → List (List Char)
  | [] => [[]]
  | c :: rest =>
    match pieces rest with
    | [] => [[c]]
    | piece :: later => if c = ',' then [] :: piece :: later else (c :: piece) :: later

/-- The directives for events among the parts of a filter. -/
def ofParts (parts : List Part) : Filter :=
  ⟨parts.filterMap fun part =>
    match part with
    | .events directive => some directive
    | .spans => none⟩

/-- Reads a filter. The empty text is the filter that lets nothing through. -/
def parse? (text : String) : Option Filter :=
  (((pieces text.toList).filter fun piece => !piece.isEmpty).mapM readPart?).map ofParts

/-- Whether a directive is about an event. -/
def isAbout (directive : Directive) (event : Event) : Bool :=
  directive.target.all (fun start => start.toList.isPrefixOf event.target.toList) &&
    directive.field.all (· = Event.field)

/-- How specific a directive is. One for all targets is less so than any with a target, a short
target less than a long one, and one that names a field more than one that does not. -/
def specificity (directive : Directive) : Nat :=
  let target :=
    match directive.target with
    | none => 0
    | some target => target.utf8ByteSize + 1
  if directive.field.isSome then 2 * target + 1 else 2 * target

/-- The directive that decides about an event: the most specific one, and the last of those. -/
def deciding? (filter : Filter) (event : Event) : Option Directive :=
  (filter.directives.filter (isAbout · event)).foldl (fun best directive =>
    match best with
    | some best => if specificity best ≤ specificity directive then some directive else some best
    | none => some directive) none

def admits (filter : Filter) (event : Event) : Bool :=
  match filter.deciding? event with
  | some directive => event.level.rank ≤ directive.verbosity
  | none => false

/-- The filter of a program that was given none. -/
def standard (verbose : Bool) : Filter :=
  if verbose then ⟨[⟨some "fizzbuzz", none, Level.debug.rank⟩, ⟨none, none, Level.info.rank⟩]⟩
  else ⟨[⟨none, none, Level.warn.rank⟩]⟩

/-- The filter in force: the one that was given, if it can be read. -/
def choose (given : Option String) (verbose : Bool) : Filter :=
  (given.bind parse?).getD (standard verbose)

end Filter

end Countoff.Log
