import Countoff.CommandLine.RangeOptions
import Countoff.Proofs.CommandLine.Flags
import Countoff.Proofs.Text.Numeral
import Mathlib.Data.List.Nodup

/-!
# Command lines that make a request

Every request by options has command lines: each field is given at most once, in any order and in
any of its spellings (`Spelled`), and a field that is not given has its usual value. Such a command
line is read as the request (`parse_of_spelled`). The flag for verbose output, wherever it is put,
changes nothing but its own field (`parse_verbose`).
-/

namespace Countoff.CommandLine

namespace RangeOptions

inductive Field where
  | start
  | stop
  | halfOpen
  | format
  | output
  | verbose
  deriving DecidableEq

variable {options : RangeOptions}

namespace Field

def opt : Field → Opt RangeOptions
  | start => startOption
  | stop => stopOption
  | halfOpen => halfOpenOption
  | format => formatOption
  | output => outputOption
  | verbose => verboseOption

/-- The configuration with a field taken from `options`. -/
def copy (options config : RangeOptions) : Field → RangeOptions
  | start => { config with start := options.start }
  | stop => { config with stop := options.stop }
  | halfOpen => { config with halfOpen := options.halfOpen }
  | format => { config with format := options.format }
  | output => { config with output := options.output }
  | verbose => { config with verbose := options.verbose }

/-- The values that can stand with the option of a field, where the field is to become what it is in
`options`. A flag has no value, and cannot be taken back. -/
inductive Value (options : RangeOptions) : Field → Option String → Prop where
  | start {text : String} (h : Text.Numeral options.start.toInt text) :
    Value options .start (some text)
  | stop {text : String} (h : Text.Numeral options.stop.toInt text) :
    Value options .stop (some text)
  | halfOpen (h : options.halfOpen = true) : Value options .halfOpen none
  | format : Value options .format (some options.format.name)
  | output {path : String} (h : options.output = some path) : Value options .output (some path)
  | verbose (h : options.verbose = true) : Value options .verbose none

theorem name_injective : Function.Injective fun field : Field => field.opt.name := by
  intro first second h
  cases first <;> cases second <;> first | rfl | exact absurd h (by decide)

theorem opt_listed (field : Field) : field.opt.Listed grammar where
  name_ne := by cases field <;> decide
  no_equals := by cases field <;> decide
  by_name := by cases field <;> rfl
  letter_ne := by cases field <;> decide
  by_letter := by
    intro c h
    cases field with
    | verbose =>
      cases h
      rfl
    | _ => cases h

theorem Value.sets {field : Field} {value : Option String} (h : Value options field value) :
    field.opt.Sets value fun config => field.copy options config := by
  cases h with
  | start hnumeral =>
    refine .value rfl ?_
    rw [numeral, Text.readInt64_eq_ok.2 hnumeral]
    rfl
  | stop hnumeral =>
    refine .value rfl ?_
    rw [numeral, Text.readInt64_eq_ok.2 hnumeral]
    rfl
  | halfOpen hset =>
    simp only [copy, hset]
    exact .flag rfl
  | format =>
    refine .value rfl ?_
    rw [formatName, Format.ofName?_name]
    rfl
  | output hpath =>
    simp only [copy, hpath]
    exact .value rfl rfl
  | verbose hset =>
    simp only [copy, hset]
    exact .flag rfl

/-! ## Copying one field after the other -/

theorem copy_copy (config : RangeOptions) (field : Field) :
    field.copy options (field.copy options config) = field.copy options config := by
  cases field <;> rfl

theorem copy_comm (config : RangeOptions) (first second : Field) :
    first.copy options (second.copy options config) =
      second.copy options (first.copy options config) := by
  cases first <;> cases second <;> rfl

theorem eq_of_copy_eq {config : RangeOptions}
    (h : ∀ field : Field, field.copy options config = config) : config = options := by
  have hstart := congrArg RangeOptions.start (h .start)
  have hstop := congrArg RangeOptions.stop (h .stop)
  have hhalfOpen := congrArg RangeOptions.halfOpen (h .halfOpen)
  have hformat := congrArg RangeOptions.format (h .format)
  have houtput := congrArg RangeOptions.output (h .output)
  have hverbose := congrArg RangeOptions.verbose (h .verbose)
  cases config
  cases options
  simp_all [copy]

/-- Once every field has been copied that was not right before, all of them are. -/
theorem foldl_copy (fields : List Field) {config : RangeOptions}
    (h : ∀ field, field ∈ fields ∨ field.copy options config = config) :
    fields.foldl (copy options) config = options := by
  induction fields generalizing config with
  | nil => exact eq_of_copy_eq fun field => (h field).resolve_left List.not_mem_nil
  | cons first fields ih =>
    -- a field that is right already stays so when another one is copied
    refine ih fun field => ?_
    rcases h field with hmem | hcopy
    · rcases List.mem_cons.1 hmem with rfl | hmem
      · exact .inr (copy_copy config field)
      · exact .inl hmem
    · exact .inr (by rw [copy_comm, hcopy])

end Field

/-! ## Spelling a request -/

/-- Command lines that give fields of `options`, in order. -/
inductive Spelled (options : RangeOptions) : List Field → List String → Prop where
  | nil : Spelled options [] []
  | cons {field : Field} {fields : List Field} {value : Option String}
    {arguments rest : List String} (hvalue : field.Value options value)
    (hspells : field.opt.Spells value arguments) (hrest : Spelled options fields rest) :
    Spelled options (field :: fields) (arguments ++ rest)

theorem Spelled.written {fields : List Field} {arguments : List String}
    (h : Spelled options fields arguments) :
    ∃ givens, Written grammar givens arguments ∧
      givens.map (·.opt.name) = fields.map (·.opt.name) ∧
      ∀ config, givens.foldl (fun config given => given.set config) config =
        fields.foldl (Field.copy options) config := by
  induction h with
  | nil => exact ⟨[], .nil, rfl, fun _ => rfl⟩
  | @cons field fields value arguments rest hvalue hspells _ ih =>
    obtain ⟨givens, hwritten, hnames, hfoldl⟩ := ih
    let given : Given RangeOptions := ⟨field.opt, value, fun config => field.copy options config⟩
    have hsets : given.opt.Sets given.value given.set := hvalue.sets
    refine ⟨given :: givens, .cons field.opt_listed hsets hspells hwritten, ?_, fun config => ?_⟩
    · rw [List.map_cons, List.map_cons, hnames]
    · exact hfoldl _

/-- A request is made by every command line that gives each of its fields at most once, and all that
do not have their usual value. -/
theorem parse_of_spelled {fields : List Field} {arguments : List String}
    (h : Spelled options fields arguments) (hdistinct : fields.Nodup)
    (hcomplete : ∀ field, field ∈ fields ∨ field.copy options usual = usual) :
    parse arguments = .ok options := by
  obtain ⟨givens, hwritten, hnames, hfoldl⟩ := h.written
  have hnodup : (givens.map (·.opt.name)).Nodup := by
    rw [hnames]
    exact List.Nodup.map Field.name_injective hdistinct
  rw [parse, read_written hwritten hnodup, hfoldl, Field.foldl_copy fields hcomplete]

/-! ## The flag for verbose output -/

theorem commutes_verbose : Commutes grammar fun options => { options with verbose := true } := by
  intro opt hopt value set heffect options
  simp only [grammar, List.mem_cons, List.not_mem_nil, or_false] at hopt
  obtain rfl | rfl | rfl | rfl | rfl | rfl | rfl := hopt
  · obtain ⟨text, -, hread⟩ := Opt.effect_eq_ok rfl heffect
    obtain ⟨n, -, rfl⟩ := map_eq_ok.1 hread
    rfl
  · obtain ⟨text, -, hread⟩ := Opt.effect_eq_ok rfl heffect
    obtain ⟨n, -, rfl⟩ := map_eq_ok.1 hread
    rfl
  · cases heffect
    rfl
  · obtain ⟨text, -, hread⟩ := Opt.effect_eq_ok rfl heffect
    obtain ⟨format, -, rfl⟩ := map_eq_ok.1 hread
    rfl
  · obtain ⟨text, -, hread⟩ := Opt.effect_eq_ok rfl heffect
    cases hread
    rfl
  · cases heffect
    rfl
  · cases heffect
    rfl

theorem parse_verbose {before after : List String} {options changed : RangeOptions} {flag : String}
    (hspells : verboseOption.Spells none [flag]) (h : parse (before ++ after) = .ok options)
    (h' : parse (before ++ flag :: after) = .ok changed) :
    changed = { options with verbose := true } :=
  read_with_flag (Field.opt_listed .verbose) rfl (fun _ hc => by cases hc; rfl) hspells
    commutes_verbose h h'

end RangeOptions

/-! ## Values behind the name of their option -/

theorem isNumber_of_isDigits {cs : List Char} (h : Text.IsDigits cs) : isNumber cs = true := by
  obtain ⟨c, cs, rfl⟩ := List.exists_cons_of_ne_nil h.1
  have hall : (c :: cs).dropWhile Char.isDigit = [] := List.dropWhile_eq_nil_iff.2 h.2
  simp only [isNumber, hall]
  simp [h.2 c List.mem_cons_self]

/-- A numeral can stand apart from an option that allows negative ones. -/
theorem takesApart_of_numeral {α : Type} {opt : Opt α} (hopt : opt.allowsNegative = true) {n : Int}
    {text : String} (h : Text.Numeral n text) : opt.TakesApart text := by
  cases h with
  | plain hdigits _ =>
    obtain ⟨c, cs, hlist⟩ := List.exists_cons_of_ne_nil hdigits.1
    have hc := (hlist ▸ hdigits).sign_ne.2
    exact .inl (by simpa [hlist] using hc)
  | plus htext _ _ => exact .inl (by simp [htext])
  | minus htext hdigits _ => exact .inr (.inr ⟨hopt, _, htext, isNumber_of_isDigits hdigits⟩)

end Countoff.CommandLine
