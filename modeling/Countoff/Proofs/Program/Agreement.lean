import Countoff.Proofs.CommandLine.FileOptions
import Countoff.Proofs.CommandLine.RangeOptions
import Countoff.Proofs.Program.Intake
import Countoff.Proofs.Settings.Reading
import Countoff.Proofs.Text.Bytes
import Mathlib.Data.List.Nodup

/-!
# One request, two programs

A request can be made on the command line or in a configuration file, where what has its usual value
may be left out. Both programs come to the same request, so they find the same fault with it, if
any, save for the name that an output path has (`SameVerdict`), and otherwise do the same
(`fronts_agree`).
-/

namespace Countoff

open CommandLine (FileOptions RangeOptions takesApart_of_numeral)
open Session (outcome)

/-! ## Making a request -/

namespace Request

/-- The options that make a request. -/
def options (request : Request) : RangeOptions where
  start := request.start
  stop := request.stop
  halfOpen := !request.inclusive
  format := request.format
  output := request.path
  verbose := false

/-- The fields that are given: the bounds and the format always. -/
def fields (request : Request) : List RangeOptions.Field :=
  [.start, .stop, .format] ++ (if request.inclusive then [] else [.halfOpen]) ++
    request.path.toList.map fun _ => .output

theorem request_options (request : Request) : request.options.request = request := by
  simp [options, RangeOptions.request]

theorem nodup_fields (request : Request) : request.fields.Nodup := by
  unfold fields
  cases request.inclusive <;> cases request.path <;> simp

theorem fields_complete (request : Request) (field : RangeOptions.Field) :
    field ∈ request.fields ∨ field.copy request.options .usual = .usual := by
  cases field with
  | start => exact .inl (by simp [fields])
  | stop => exact .inl (by simp [fields])
  | format => exact .inl (by simp [fields])
  | halfOpen =>
    cases h : request.inclusive with
    | false => exact .inl (by simp [fields, h])
    | true => exact .inr (by simp [RangeOptions.Field.copy, options, RangeOptions.usual, h])
  | output =>
    cases h : request.path with
    | none => exact .inr (by simp [RangeOptions.Field.copy, options, RangeOptions.usual, h])
    | some path => exact .inl (by simp [fields, h])
  | verbose => exact .inr rfl

end Request

/-- An output that asks for a format and a path. JSON need not be named, and an output that asks for
nothing else need not be there. -/
inductive OutputSettings.Asks : Option OutputSettings → Format → Option String → Prop where
  | named (format : Format) (path : Option String) : Asks (some ⟨some format, path⟩) format path
  | json (path : Option String) : Asks (some ⟨none, path⟩) .json path
  | absent : Asks none .json none

/-- Settings that ask for a request. That the upper bound is included need not be said. -/
structure Settings.Asks (settings : Settings) (request : Request) : Prop where
  start : settings.range.start = request.start
  stop : settings.range.stop = request.stop
  inclusive : settings.range.inclusive = some request.inclusive ∨
    settings.range.inclusive = none ∧ request.inclusive = true
  output : OutputSettings.Asks settings.output request.format request.path

theorem OutputSettings.Asks.eq {settings : Settings} {format : Format} {path : Option String}
    (h : OutputSettings.Asks settings.output format path) :
    settings.format = format ∧ settings.path = path := by
  unfold Settings.format Settings.path
  generalize settings.output = output at h
  cases h with
  | named => exact ⟨rfl, rfl⟩
  | json => exact ⟨rfl, rfl⟩
  | absent => exact ⟨rfl, rfl⟩

theorem Settings.Asks.request_eq {settings : Settings} {request : Request}
    (h : settings.Asks request) : settings.request = request := by
  have hinclusive : settings.isInclusive = request.inclusive := by
    unfold Settings.isInclusive
    rcases h.inclusive with hgiven | ⟨hnone, husual⟩
    · rw [hgiven, Option.getD_some]
    · rw [hnone, husual, Option.getD_none]
  obtain ⟨hformat, hpath⟩ := h.output.eq
  rw [Settings.request, h.start, h.stop, hinclusive, hformat, hpath]

/-! ## Finding fault with a request -/

/-- What the two programs find of one request: no fault, the same fault with its integers, or the
same fault with its path, which goes by two names. -/
inductive SameVerdict (request : Request) : Except Fault Unit → Except Fault Unit → Prop where
  | valid : SameVerdict request (.ok ()) (.ok ())
  | integers {fault : Fault} (h : request.interval = .error fault) :
    SameVerdict request (.error fault) (.error fault)
  | path {path : String} (problem : ValueProblem) (h : request.path = some path) :
    SameVerdict request (.error (.invalidValue "output" path problem))
      (.error (.invalidValue "output.path" path problem))

theorem sameVerdict_validate (request : Request) :
    SameVerdict request (request.validate "output") (request.validate "output.path") := by
  unfold Request.validate
  cases hi : request.interval with
  | error fault => exact .integers hi
  | ok i =>
    cases hpath : request.path with
    | none => exact .valid
    | some path =>
      show SameVerdict request (Check.path "output" path) (Check.path "output.path" path)
      unfold Check.path
      split
      · exact .path _ hpath
      split
      · exact .path _ hpath
      · exact .valid

/-! ## Running both programs -/

/-- Two outcomes that differ at most in what the person at the terminal was told. -/
structure Session.SameEffect (first second : Session.Outcome) : Prop where
  code : first.code = second.code
  printed : first.printed = second.printed
  tree : first.tree = second.tree

namespace Program

theorem intake_of_file {options : FileOptions} {arguments : List String} {tree : FileTree}
    {text : String} (h : FileOptions.parse arguments = .ok options)
    (hfile : tree.readFile options.config.toList = .ok text.toUTF8) :
    Front.file.intake tree arguments = .ofFile options (.ok text) := by
  have hread : tree.read options.config = .ok text := by
    rw [FileTree.read, hfile]
    simp only [Text.fromUTF8?_toUTF8]
  rw [intake_file tree h, hread]

/-- **The two programs agree** on a request that is made to both of them: on the command line, with
its options in any order and spelling, and in a file, laid out in any way. The exit code, what is
printed and the tree that is left are the same, and so is what is found wrong with the request. -/
theorem fronts_agree {request : Request} {fields : List RangeOptions.Field}
    {arguments fileArguments : List String} {tree : FileTree} {config text : String}
    {entries : Toml.Entries} {settings : Settings}
    (harguments : RangeOptions.Spelled request.options fields arguments)
    (hfields : fields.Perm request.fields)
    (hfileArguments : FileOptions.configOption.Spells (some config) fileArguments)
    (hfile : tree.readFile config.toList = .ok text.toUTF8)
    (hread : Toml.read text.toList = .ok entries) (hentries : entries.Holds settings.content)
    (hasks : settings.Asks request) (filter fileFilter : Option String) :
    Session.SameEffect (outcome (Front.commandLine.run filter arguments) tree)
        (outcome (Front.file.run fileFilter fileArguments) tree) ∧
      RangeOptions.parse arguments = .ok request.options ∧ Settings.ofText text = .ok settings ∧
        SameVerdict request request.options.validate settings.validate := by
  have hparse : RangeOptions.parse arguments = .ok request.options :=
    RangeOptions.parse_of_spelled harguments (hfields.nodup_iff.2 request.nodup_fields) fun field =>
      (request.fields_complete field).imp_left hfields.mem_iff.2
  have hsettings : Settings.ofText text = .ok settings := Settings.ofText_of_holds hread hentries
  have hverdict : SameVerdict request request.options.validate settings.validate := by
    rw [RangeOptions.validate, request.request_options, Settings.validate, hasks.request_eq]
    exact sameVerdict_validate request
  refine ⟨?_, hparse, hsettings, hverdict⟩
  simp only [Front.outcome_run, intake_of_options tree hparse,
    intake_of_file (FileOptions.parse_of_config hfileArguments) hfile, Intake.ofOptions,
    Intake.ofFile, hsettings, request.request_options, hasks.request_eq]
  -- all that the programs do from here on is settled by their verdicts
  generalize request.options.validate = optionsVerdict at hverdict ⊢
  generalize settings.validate = settingsVerdict at hverdict ⊢
  cases hverdict with
  | valid => exact ⟨rfl, rfl, rfl⟩
  | integers => exact ⟨rfl, rfl, rfl⟩
  | path => exact ⟨rfl, rfl, rfl⟩

/-- A request below zero, with a file that has the tables in an order of its own and leaves out the
format. -/
theorem fronts_agree_below_zero :
    let text := "[output]\npath = \"a\"\n[range]\nend = -1\nstart = -9\ninclusive = false\n"
    let tree := FileTree.empty.put ["fizz.toml"] (.file text.toUTF8)
    let request : Request := ⟨-9, -1, false, .json, some "a"⟩
    let settings : Settings := ⟨⟨-9, -1, some false⟩, some ⟨none, some "a"⟩⟩
    let arguments := ["--end=-1", "--start", "-9", "--half-open", "--format", "json", "--output=a"]
    Session.SameEffect (outcome (Front.commandLine.run none arguments) tree)
        (outcome (Front.file.run none ["--config", "fizz.toml"]) tree) ∧
      RangeOptions.parse arguments = .ok request.options ∧ Settings.ofText text = .ok settings ∧
        SameVerdict request request.options.validate settings.validate := by
  intro text tree request settings arguments
  have hstop : Text.Numeral request.options.stop.toInt "-1" := Text.readInt64_eq_ok.1 rfl
  have hstart : Text.Numeral request.options.start.toInt "-9" := Text.readInt64_eq_ok.1 rfl
  have harguments : RangeOptions.Spelled request.options
      [.stop, .start, .halfOpen, .format, .output] arguments := by
    have h := RangeOptions.Spelled.cons (.stop hstop) (.joined "-1") <|
      .cons (.start hstart) (.apart "-9" (takesApart_of_numeral rfl hstart)) <|
      .cons (.halfOpen rfl) .flag <|
      .cons .format (.apart "json" (.inl (by decide))) <|
      .cons (.output rfl) (.joined "a") .nil
    exact h
  have hfields : [.stop, .start, .halfOpen, .format, .output].Perm request.fields := by
    decide
  have hfile : tree.readFile "fizz.toml".toList = .ok text.toUTF8 := by
    rfl
  let outputEntries : Toml.Entries := [(⟨"path", 57⟩, .scalar 50 (.string "a"))]
  let rangeEntries : Toml.Entries :=
    [(⟨"end", 38⟩, .scalar 32 (.integer (some (-1)))),
      (⟨"start", 29⟩, .scalar 21 (.integer (some (-9)))),
      (⟨"inclusive", 18⟩, .scalar 6 (.boolean false))]
  let entries : Toml.Entries :=
    [(⟨"output", 65⟩, .table 66 .header outputEntries),
      (⟨"range", 45⟩, .table 46 .header rangeEntries)]
  have hread : Toml.read text.toList = .ok entries := by
    unfold text
    rfl
  have houtput : outputEntries.Holds (OutputSettings.content ⟨none, some "a"⟩) :=
    .cons ⟨_, rfl⟩ .nil
  have hrange : rangeEntries.Holds settings.range.content :=
    (Toml.Entries.Holds.cons ⟨_, rfl⟩ <| .cons ⟨_, rfl⟩ <| .cons ⟨_, rfl⟩ .nil).perm (.swap ..)
  have hentries : entries.Holds settings.content :=
    (Toml.Entries.Holds.cons ⟨_, _, _, rfl, houtput⟩ <|
      .cons ⟨_, _, _, rfl, hrange⟩ .nil).perm (.swap ..)
  exact fronts_agree harguments hfields (.apart "fizz.toml" (.inl (by decide))) hfile hread hentries
    ⟨rfl, rfl, .inl rfl, .json _⟩ none none

end Program

end Countoff
