import Countoff.Proofs.Settings.Reading
import Countoff.Proofs.Toml.WellFormed
import Mathlib.Data.List.Nodup

/-!
# The schema of a configuration

Which tables hold settings can be said without any settings: a table has no key but those of its
rules, each value fits the rule of its key, and no key that has to be there is missing
(`Toml.Entries.Fits`). A table fits the rules exactly if it holds some settings, and these are what
is read from it. So a document in which tables are given by their keys is accepted exactly if it
fits the rules (`Settings.accepts_exactly`), whatever else it holds.
-/

namespace Countoff

open Toml (Entries Key Node Scalar)

/-! ## Rules -/

/-- A key that a table may have, or has to have, and what its value has to be. -/
structure Rule where
  name : String
  required : Bool
  fits : Node → Prop

structure Toml.Entries.Fits (entries : Entries) (rules : List Rule) : Prop where
  known : ∀ entry ∈ entries, entry.1.name ∈ rules.map Rule.name
  fits : ∀ rule ∈ rules, ∀ node, entries.get? rule.name = some node → rule.fits node
  present : ∀ rule ∈ rules, rule.required = true → entries.get? rule.name ≠ none

namespace Toml.Node

/-- An integer of 64 bits with a sign. -/
def IsInt64 (node : Node) : Prop :=
  ∃ n : Int64, node.IsScalar (.integer (some n.toInt))

def IsBoolean (node : Node) : Prop :=
  ∃ value, node.IsScalar (.boolean value)

def IsString (node : Node) : Prop :=
  ∃ value, node.IsScalar (.string value)

/-- The name of a format, in lower case. -/
def IsFormatName (node : Node) : Prop :=
  ∃ format : Format, node.IsScalar (.string format.name)

end Toml.Node

def RangeSettings.rules : List Rule :=
  [⟨"start", true, Node.IsInt64⟩, ⟨"end", true, Node.IsInt64⟩, ⟨"inclusive", false, Node.IsBoolean⟩]

def OutputSettings.rules : List Rule :=
  [⟨"format", false, Node.IsFormatName⟩, ⟨"path", false, Node.IsString⟩]

def Settings.rules : List Rule :=
  [⟨"range", true, Node.IsTable (·.Fits RangeSettings.rules)⟩,
    ⟨"output", false, Node.IsTable (·.Fits OutputSettings.rules)⟩]

/-! ## Holding a content -/

section Contents

variable {α : Type} {entries : Entries} {content : Content} {rules : List Rule} {name : String}
  {holds : α → Node → Prop}

/-- What stands under a name is a certain value, or nothing if there is no value. -/
def Toml.Entries.Gives (entries : Entries) (name : String) (holds : α → Node → Prop) :
    Option α → Prop
  | some value => ∃ node, entries.get? name = some node ∧ holds value node
  | none => entries.get? name = none

theorem Toml.Entries.exists_gives
    (h : ∀ node, entries.get? name = some node → ∃ value, holds value node) :
    ∃ value, entries.Gives name holds value := by
  cases hget : entries.get? name with
  | none => exact ⟨none, hget⟩
  | some node =>
    obtain ⟨value, hvalue⟩ := h node hget
    exact ⟨some value, node, hget, hvalue⟩

theorem Toml.Entries.exists_gives_some
    (h : ∀ node, entries.get? name = some node → ∃ value, holds value node)
    (hpresent : entries.get? name ≠ none) : ∃ value, entries.Gives name holds (some value) := by
  obtain ⟨value, hvalue⟩ := exists_gives h
  cases value with
  | none => exact absurd hvalue hpresent
  | some value => exact ⟨value, hvalue⟩

/-- What stands under a name is what a content calls for. -/
structure Content.Agrees (content : Content) (entries : Entries) (name : String) : Prop where
  right : ∀ node, entries.get? name = some node → ∃ holds, (name, holds) ∈ content ∧ holds node
  present : ∀ holds, (name, holds) ∈ content → entries.get? name ≠ none

theorem Toml.Entries.Gives.agrees {value : Option α} (h : entries.Gives name holds value)
    (hname : ∀ other, (name, other) ∈ content ↔
      ∃ given, value = some given ∧ other = holds given) : content.Agrees entries name := by
  cases value with
  | none =>
    have hnone : entries.get? name = none := h
    constructor
    · intro node hnode
      rw [hnone] at hnode
      cases hnode
    · intro other hother
      obtain ⟨given, hgiven, -⟩ := (hname other).1 hother
      cases hgiven
  | some value =>
    obtain ⟨node, hget, hholds⟩ := h
    constructor
    · intro other hother
      rw [hget] at hother
      cases hother
      exact ⟨holds value, (hname _).2 ⟨value, rfl, rfl⟩, hholds⟩
    · intro other _ hnone
      rw [hget] at hnone
      cases hnone

/-- A table holds a content if it has no other keys, and what stands under each of them is what the
content calls for. -/
theorem Toml.Entries.Fits.holds_of_agrees (hwell : entries.WellFormed) (hfits : entries.Fits rules)
    (hnames : ∀ name holds, (name, holds) ∈ content → name ∈ rules.map Rule.name)
    (hagrees : ∀ rule ∈ rules, content.Agrees entries rule.name) : entries.Holds content where
  only := by
    intro key node hentry
    obtain ⟨rule, hrule, hname⟩ := List.mem_map.1 (hfits.known _ hentry)
    have hget := hwell.get?_of_mem hentry
    rw [← hname] at hget ⊢
    exact (hagrees rule hrule).right node hget
  all := by
    intro name holds hcontent
    obtain ⟨rule, hrule, rfl⟩ := List.mem_map.1 (hnames name holds hcontent)
    have hpresent := (hagrees rule hrule).present holds hcontent
    cases hget : entries.get? rule.name with
    | none => exact absurd hget hpresent
    | some node =>
      obtain ⟨key, hentry, hkey⟩ := mem_of_get? hget
      exact ⟨(key, node), hentry, hkey⟩

/-- A table whose entries have all been found right fits the rules, if no key is missing. -/
theorem Toml.Entries.fits_of_checkAll {check : Key → Node → Except Flaw Unit}
    (hcheck : Reader.checkAll check entries = .ok ()) (hdistinct : (rules.map Rule.name).Nodup)
    (hrules : ∀ key node, (key, node) ∈ entries → check key node = .ok () →
      ∃ rule ∈ rules, rule.name = key.name ∧ rule.fits node)
    (hpresent : ∀ rule ∈ rules, rule.required = true → entries.get? rule.name ≠ none) :
    entries.Fits rules where
  known := by
    rintro ⟨key, node⟩ hentry
    obtain ⟨rule, hrule, hname, -⟩ :=
      hrules key node hentry (Reader.checkAll_eq_ok.1 hcheck _ _ hentry)
    exact List.mem_map.2 ⟨rule, hrule, hname⟩
  fits := by
    intro rule hrule node hget
    obtain ⟨key, hentry, hkey⟩ := mem_of_get? hget
    obtain ⟨other, hother, hname, hfits⟩ :=
      hrules key node hentry (Reader.checkAll_eq_ok.1 hcheck _ _ hentry)
    rwa [← List.inj_on_of_nodup_map hdistinct hother hrule (hname.trans hkey)]
  present := hpresent

end Contents

/-! ## What the readers of values accept -/

namespace Reader

variable {entries : Entries} {node : Node} {name : String} {mark : Nat}

theorem check_eq_ok {α : Type} {reader : Reader α} :
    check reader node = .ok () ↔ ∃ value, reader node = .ok value := by
  unfold check
  cases reader node <;> simp [Except.map]

theorem int64_eq_ok {n : Int64} :
    int64 node = .ok n ↔ node.IsScalar (.integer (some n.toInt)) := by
  refine ⟨fun h => ?_, int64_of_isScalar⟩
  have hmin : Int64.minValue.toInt = -2 ^ 63 := by decide
  have hmax : Int64.maxValue.toInt = 2 ^ 63 - 1 := by decide
  unfold int64 at h
  split at h
  · split at h
    · next mark m hrange =>
      cases h
      rw [Int64.toInt_ofInt_of_le (by omega) (by omega)]
      exact ⟨mark, rfl⟩
    · split at h <;> cases h
  · cases h

theorem boolean_eq_ok {value : Bool} :
    boolean node = .ok value ↔ node.IsScalar (.boolean value) := by
  refine ⟨fun h => ?_, boolean_of_isScalar⟩
  unfold boolean at h
  split at h
  · cases h
    exact ⟨_, rfl⟩
  · cases h

theorem string_eq_ok {value : String} :
    string node = .ok value ↔ node.IsScalar (.string value) := by
  refine ⟨fun h => ?_, string_of_isScalar⟩
  unfold string at h
  split at h
  · cases h
    exact ⟨_, rfl⟩
  · cases h

theorem formatName_eq_ok {f : Format} : formatName mark name = .ok f ↔ name = f.name := by
  constructor
  · intro h
    unfold formatName at h
    split at h
    · next found hfound =>
      cases h
      have hname := List.find?_some hfound
      exact (of_decide_eq_true hname).symm
    · cases h
  · rintro rfl
    simp only [formatName, Format.ofName?_name]

/-- A format that is not given by its name is given by a table with one key. -/
theorem format_eq_ok {f : Format} (h : format node = .ok f) :
    node.IsScalar (.string f.name) ∨ ∃ mark origin key inner,
      node = .table mark origin [(key, inner)] ∧ nothing inner = .ok () := by
  unfold format at h
  split at h
  · next mark name =>
    rw [formatName_eq_ok.1 h]
    exact .inl ⟨mark, rfl⟩
  · split at h
    · cases h
    · next key inner =>
      obtain ⟨found, -, h⟩ := bind_eq_ok.1 h
      obtain ⟨⟨⟩, hnothing, -⟩ := bind_eq_ok.1 h
      exact .inr ⟨_, _, key, inner, rfl, hnothing⟩
    · cases h
  · cases h

theorem required_eq_ok {α : Type} {reader : Reader α} {value : α} :
    required mark entries name reader = .ok value ↔
      entries.Gives name (fun value node => reader node = .ok value) (some value) := by
  unfold required Toml.Entries.Gives
  cases entries.get? name <;> simp

theorem optional_eq_ok {α : Type} {reader : Reader α} {value : Option α} :
    optional entries name reader = .ok value ↔
      entries.Gives name (fun value node => reader node = .ok value) value := by
  unfold optional Toml.Entries.Gives
  cases entries.get? name with
  | none => cases value <;> simp
  | some node => cases value <;> cases h : reader node <;> simp [Except.map, h]

end Reader

/-! ## Ranges -/

section Range

variable {entries : Entries} {mark : Nat} {origin : Toml.Origin} {range : RangeSettings}

theorem Reader.range_table (h : Reader.range (.table mark origin entries) = .ok range) :
    checkAll rangeEntry entries = .ok () ∧
      required mark entries "start" int64 = .ok range.start ∧
      required mark entries "end" int64 = .ok range.stop ∧
      optional entries "inclusive" boolean = .ok range.inclusive := by
  obtain ⟨⟨⟩, hcheck, h⟩ := bind_eq_ok.1 h
  obtain ⟨start, hstart, h⟩ := bind_eq_ok.1 h
  obtain ⟨stop, hstop, h⟩ := bind_eq_ok.1 h
  obtain ⟨inclusive, hinclusive, h⟩ := bind_eq_ok.1 h
  cases h
  exact ⟨hcheck, hstart, hstop, hinclusive⟩

theorem Reader.rangeEntry_fits {key : Key} {node : Node} (h : rangeEntry key node = .ok ()) :
    ∃ rule ∈ RangeSettings.rules, rule.name = key.name ∧ rule.fits node := by
  unfold rangeEntry at h
  split at h
  · next hname =>
    obtain ⟨n, hn⟩ := check_eq_ok.1 h
    have hfits : node.IsInt64 := ⟨n, int64_eq_ok.1 hn⟩
    rcases hname with hname | hname
    · exact ⟨_, .head _, hname.symm, hfits⟩
    · exact ⟨_, .tail _ (.head _), hname.symm, hfits⟩
  · split at h
    · next hname =>
      obtain ⟨value, hvalue⟩ := check_eq_ok.1 h
      exact ⟨_, .tail _ (.tail _ (.head _)), hname.symm, value, boolean_eq_ok.1 hvalue⟩
    · cases h

theorem Reader.fits_of_range (h : Reader.range (.table mark origin entries) = .ok range) :
    entries.Fits RangeSettings.rules := by
  obtain ⟨hcheck, hstart, hstop, -⟩ := range_table h
  obtain ⟨start, hstart, -⟩ := required_eq_ok.1 hstart
  obtain ⟨stop, hstop, -⟩ := required_eq_ok.1 hstop
  refine Toml.Entries.fits_of_checkAll hcheck (by decide) (fun _ _ _ => rangeEntry_fits) ?_
  simp [RangeSettings.rules, hstart, hstop]

/-- A range is held by a table that gives its parts. -/
theorem RangeSettings.holds_of_gives (hwell : entries.WellFormed)
    (hfits : entries.Fits RangeSettings.rules)
    (hstart : entries.Gives "start" (fun (n : Int64) => Node.IsScalar (.integer (some n.toInt)))
      (some range.start))
    (hstop : entries.Gives "end" (fun (n : Int64) => Node.IsScalar (.integer (some n.toInt)))
      (some range.stop))
    (hinclusive : entries.Gives "inclusive" (fun value => Node.IsScalar (.boolean value))
      range.inclusive) : entries.Holds range.content := by
  refine Toml.Entries.Fits.holds_of_agrees hwell hfits ?_ ?_
  · intro name holds hcontent
    rcases mem_content.1 hcontent with ⟨rfl, -⟩ | ⟨rfl, -⟩ | ⟨rfl, -⟩ <;> simp [rules]
  · simp only [rules, List.forall_mem_cons]
    refine ⟨hstart.agrees ?_, hstop.agrees ?_, hinclusive.agrees ?_, nofun⟩ <;>
      simp [mem_content]

theorem Reader.holds_of_range (hwell : entries.WellFormed)
    (h : Reader.range (.table mark origin entries) = .ok range) :
    entries.Holds range.content := by
  obtain ⟨-, hstart, hstop, hinclusive⟩ := range_table h
  simp only [required_eq_ok, optional_eq_ok, int64_eq_ok, boolean_eq_ok] at hstart hstop hinclusive
  exact RangeSettings.holds_of_gives hwell (fits_of_range h) hstart hstop hinclusive

theorem RangeSettings.exists_holds (hwell : entries.WellFormed)
    (hfits : entries.Fits RangeSettings.rules) :
    ∃ range : RangeSettings, entries.Holds range.content := by
  obtain ⟨start, hstart⟩ := Toml.Entries.exists_gives_some
    (hfits.fits _ (.head _)) (hfits.present _ (.head _) rfl)
  obtain ⟨stop, hstop⟩ := Toml.Entries.exists_gives_some
    (hfits.fits _ (.tail _ (.head _))) (hfits.present _ (.tail _ (.head _)) rfl)
  obtain ⟨inclusive, hinclusive⟩ := Toml.Entries.exists_gives
    (hfits.fits _ (.tail _ (.tail _ (.head _))))
  exact ⟨⟨start, stop, inclusive⟩, holds_of_gives hwell hfits hstart hstop hinclusive⟩

/-- A range is given by a table, or by an array of its parts, of which no more than three count. -/
theorem Reader.range_cases {node : Node} (h : Reader.range node = .ok range) :
    (∃ mark origin entries, node = .table mark origin entries) ∨
      ∃ mark ofTables start stop inclusive surplus,
        node = .array mark ofTables (start :: stop :: inclusive :: surplus) ∧
        int64 start = .ok range.start ∧ int64 stop = .ok range.stop ∧
        ∃ value, boolean inclusive = .ok value ∧ range.inclusive = some value := by
  unfold Reader.range at h
  split at h
  · exact .inl ⟨_, _, _, rfl⟩
  · right
    split at h
    · cases h
    obtain ⟨start, hstart, h⟩ := bind_eq_ok.1 h
    split at h
    · cases h
    obtain ⟨stop, hstop, h⟩ := bind_eq_ok.1 h
    split at h
    · cases h
    obtain ⟨inclusive, hinclusive, h⟩ := bind_eq_ok.1 h
    cases h
    exact ⟨_, _, _, _, _, _, rfl, hstart, hstop, inclusive, hinclusive, rfl⟩
  · cases h

end Range

/-! ## Outputs -/

section Output

variable {entries : Entries} {mark : Nat} {origin : Toml.Origin} {output : OutputSettings}

/-- No table stands for a format. -/
def Toml.Entries.NamesFormat (entries : Entries) : Prop :=
  ∀ mark origin other, entries.get? "format" ≠ some (.table mark origin other)

theorem Reader.output_table (h : Reader.output (.table mark origin entries) = .ok output) :
    checkAll outputEntry entries = .ok () ∧
      optional entries "format" format = .ok output.format ∧
      optional entries "path" string = .ok output.path := by
  obtain ⟨⟨⟩, hcheck, h⟩ := bind_eq_ok.1 h
  obtain ⟨format, hformat, h⟩ := bind_eq_ok.1 h
  obtain ⟨path, hpath, h⟩ := bind_eq_ok.1 h
  cases h
  exact ⟨hcheck, hformat, hpath⟩

theorem Reader.fits_of_output (hwell : entries.WellFormed) (hscope : entries.NamesFormat)
    (h : Reader.output (.table mark origin entries) = .ok output) :
    entries.Fits OutputSettings.rules := by
  obtain ⟨hcheck, -⟩ := output_table h
  refine Toml.Entries.fits_of_checkAll hcheck (by decide) ?_ (by simp [OutputSettings.rules])
  intro key node hentry hread
  unfold outputEntry at hread
  split at hread
  · next hname =>
    obtain ⟨f, hf⟩ := check_eq_ok.1 hread
    refine ⟨_, .head _, hname.symm, f, ?_⟩
    rcases format_eq_ok hf with hscalar | ⟨_, _, _, _, rfl, -⟩
    · exact hscalar
    · exact absurd (hname ▸ hwell.get?_of_mem hentry) (hscope _ _ _)
  · split at hread
    · next hname =>
      obtain ⟨value, hvalue⟩ := check_eq_ok.1 hread
      exact ⟨_, .tail _ (.head _), hname.symm, value, string_eq_ok.1 hvalue⟩
    · cases hread

/-- An output is held by a table that gives its parts. -/
theorem OutputSettings.holds_of_gives (hwell : entries.WellFormed)
    (hfits : entries.Fits OutputSettings.rules)
    (hformat : entries.Gives "format" (fun (f : Format) => Node.IsScalar (.string f.name))
      output.format)
    (hpath : entries.Gives "path" (fun value => Node.IsScalar (.string value)) output.path) :
    entries.Holds output.content := by
  refine Toml.Entries.Fits.holds_of_agrees hwell hfits ?_ ?_
  · intro name holds hcontent
    rcases mem_content.1 hcontent with ⟨rfl, -⟩ | ⟨rfl, -⟩ <;> simp [rules]
  · simp only [rules, List.forall_mem_cons]
    refine ⟨hformat.agrees ?_, hpath.agrees ?_, nofun⟩ <;> simp [mem_content]

theorem Reader.holds_of_output (hwell : entries.WellFormed) (hscope : entries.NamesFormat)
    (h : Reader.output (.table mark origin entries) = .ok output) :
    entries.Holds output.content := by
  obtain ⟨-, hformat, hpath⟩ := output_table h
  simp only [optional_eq_ok, string_eq_ok] at hformat hpath
  refine OutputSettings.holds_of_gives hwell (fits_of_output hwell hscope h) ?_ hpath
  cases hvalue : output.format with
  | none => rwa [hvalue] at hformat
  | some f =>
    rw [hvalue] at hformat
    obtain ⟨node, hget, hread⟩ := hformat
    rcases format_eq_ok hread with hscalar | ⟨_, _, _, _, rfl, -⟩
    · exact ⟨node, hget, hscalar⟩
    · exact absurd hget (hscope _ _ _)

theorem OutputSettings.exists_holds (hwell : entries.WellFormed)
    (hfits : entries.Fits OutputSettings.rules) :
    ∃ output : OutputSettings, entries.Holds output.content := by
  obtain ⟨format, hformat⟩ := Toml.Entries.exists_gives (hfits.fits _ (.head _))
  obtain ⟨path, hpath⟩ := Toml.Entries.exists_gives (hfits.fits _ (.tail _ (.head _)))
  exact ⟨⟨format, path⟩, holds_of_gives hwell hfits hformat hpath⟩

/-- An output is given by a table, or by an array of its parts, of which no more than two count. -/
theorem Reader.output_cases {node : Node} (h : Reader.output node = .ok output) :
    (∃ mark origin entries, node = .table mark origin entries) ∨
      ∃ mark ofTables first path surplus,
        node = .array mark ofTables (first :: path :: surplus) ∧
        (∃ f, format first = .ok f ∧ output.format = some f) ∧
        ∃ value, string path = .ok value ∧ output.path = some value := by
  unfold Reader.output at h
  split at h
  · exact .inl ⟨_, _, _, rfl⟩
  · right
    split at h
    · cases h
    obtain ⟨f, hf, h⟩ := bind_eq_ok.1 h
    split at h
    · cases h
    obtain ⟨path, hpath, h⟩ := bind_eq_ok.1 h
    cases h
    exact ⟨_, _, _, _, _, rfl, ⟨f, hf, rfl⟩, path, hpath, rfl⟩
  · cases h

end Output

/-! ## Settings -/

/-- Range and output are given by their keys, if at all, and no table stands for the format. -/
structure Toml.Entries.ByKeys (entries : Entries) : Prop where
  range : ∀ mark ofTables items, entries.get? "range" ≠ some (.array mark ofTables items)
  output : ∀ mark ofTables items, entries.get? "output" ≠ some (.array mark ofTables items)
  format : ∀ mark origin inner, entries.get? "output" = some (.table mark origin inner) →
    Entries.NamesFormat inner

namespace Settings

variable {entries : Entries} {settings : Settings} {mark : Nat}

theorem ofEntries_eq_ok (h : ofEntries mark entries = .ok settings) :
    Reader.checkAll Reader.rootEntry entries = .ok () ∧
      Reader.required mark entries "range" Reader.range = .ok settings.range ∧
      Reader.optional entries "output" Reader.output = .ok settings.output := by
  obtain ⟨⟨⟩, hcheck, h⟩ := bind_eq_ok.1 h
  obtain ⟨range, hrange, h⟩ := bind_eq_ok.1 h
  obtain ⟨output, houtput, h⟩ := bind_eq_ok.1 h
  cases h
  exact ⟨hcheck, hrange, houtput⟩

theorem fits_of_ofEntries (hwell : entries.WellFormed) (hscope : entries.ByKeys)
    (h : ofEntries mark entries = .ok settings) : entries.Fits rules := by
  obtain ⟨hcheck, hrange, -⟩ := ofEntries_eq_ok h
  obtain ⟨range, hrange, -⟩ := Reader.required_eq_ok.1 hrange
  refine Toml.Entries.fits_of_checkAll hcheck (by decide) ?_ (by simp [rules, hrange])
  intro key node hentry hread
  have hget := hwell.get?_of_mem hentry
  unfold Reader.rootEntry at hread
  split at hread
  · next hname =>
    rw [hname] at hget
    obtain ⟨found, hfound⟩ := Reader.check_eq_ok.1 hread
    rcases Reader.range_cases hfound with ⟨mark, origin, inner, rfl⟩ | ⟨_, _, _, _, _, _, rfl, -⟩
    · exact ⟨_, .head _, hname.symm, mark, origin, inner, rfl, Reader.fits_of_range hfound⟩
    · exact absurd hget (hscope.range _ _ _)
  · split at hread
    · next hname =>
      rw [hname] at hget
      obtain ⟨found, hfound⟩ := Reader.check_eq_ok.1 hread
      rcases Reader.output_cases hfound with ⟨mark, origin, inner, rfl⟩ | ⟨_, _, _, _, _, rfl, -⟩
      · refine ⟨_, .tail _ (.head _), hname.symm, mark, origin, inner, rfl, ?_⟩
        exact Reader.fits_of_output (hwell.table hget) (hscope.format _ _ _ hget) hfound
      · exact absurd hget (hscope.output _ _ _)
    · cases hread

/-- Settings are held by a table that gives their parts. -/
theorem holds_of_gives (hwell : entries.WellFormed) (hfits : entries.Fits rules)
    (hrange : entries.Gives "range"
      (fun (range : RangeSettings) => Node.IsTable (·.Holds range.content)) (some settings.range))
    (houtput : entries.Gives "output"
      (fun (output : OutputSettings) => Node.IsTable (·.Holds output.content)) settings.output) :
    entries.Holds settings.content := by
  refine Toml.Entries.Fits.holds_of_agrees hwell hfits ?_ ?_
  · intro name holds hcontent
    rcases mem_content.1 hcontent with ⟨rfl, -⟩ | ⟨rfl, -⟩ <;> simp [rules]
  · simp only [rules, List.forall_mem_cons]
    refine ⟨hrange.agrees ?_, houtput.agrees ?_, nofun⟩ <;> simp [mem_content]

theorem holds_of_ofEntries (hwell : entries.WellFormed) (hscope : entries.ByKeys)
    (h : ofEntries mark entries = .ok settings) : entries.Holds settings.content := by
  obtain ⟨-, hrange, houtput⟩ := ofEntries_eq_ok h
  refine holds_of_gives hwell (fits_of_ofEntries hwell hscope h) ?_ ?_
  · obtain ⟨node, hget, hread⟩ := Reader.required_eq_ok.1 hrange
    rcases Reader.range_cases hread with ⟨mark, origin, inner, rfl⟩ | ⟨_, _, _, _, _, _, rfl, -⟩
    · have hinner := Reader.holds_of_range (hwell.table hget) hread
      exact ⟨_, hget, mark, origin, inner, rfl, hinner⟩
    · exact absurd hget (hscope.range _ _ _)
  · have hgives := Reader.optional_eq_ok.1 houtput
    cases hvalue : settings.output with
    | none => rwa [hvalue] at hgives
    | some output =>
      rw [hvalue] at hgives
      obtain ⟨node, hget, hread⟩ := hgives
      rcases Reader.output_cases hread with ⟨mark, origin, inner, rfl⟩ | ⟨_, _, _, _, _, rfl, -⟩
      · have hinner := Reader.holds_of_output (hwell.table hget)
          (hscope.format _ _ _ hget) hread
        exact ⟨_, hget, mark, origin, inner, rfl, hinner⟩
      · exact absurd hget (hscope.output _ _ _)

theorem exists_holds (hwell : entries.WellFormed) (hfits : entries.Fits rules) :
    ∃ settings : Settings, entries.Holds settings.content := by
  have hrange : ∀ node, entries.get? "range" = some node →
      ∃ range : RangeSettings, node.IsTable (·.Holds range.content) := by
    intro node hget
    obtain ⟨mark, origin, inner, rfl, hinner⟩ := hfits.fits _ (.head _) node hget
    obtain ⟨range, hholds⟩ := RangeSettings.exists_holds (hwell.table hget) hinner
    exact ⟨range, mark, origin, inner, rfl, hholds⟩
  have houtput : ∀ node, entries.get? "output" = some node →
      ∃ output : OutputSettings, node.IsTable (·.Holds output.content) := by
    intro node hget
    obtain ⟨mark, origin, inner, rfl, hinner⟩ := hfits.fits _ (.tail _ (.head _)) node hget
    obtain ⟨output, hholds⟩ := OutputSettings.exists_holds (hwell.table hget) hinner
    exact ⟨output, mark, origin, inner, rfl, hholds⟩
  obtain ⟨range, hrange⟩ :=
    Toml.Entries.exists_gives_some hrange (hfits.present _ (.head _) rfl)
  obtain ⟨output, houtput⟩ := Toml.Entries.exists_gives houtput
  exact ⟨⟨range, output⟩, holds_of_gives hwell hfits hrange houtput⟩

/-- A document is read by its entries. -/
theorem ofText_eq_ok {text : String} (hread : Toml.read text.toList = .ok entries) :
    ofText text = .ok settings ↔ ofEntries text.toList.length entries = .ok settings := by
  simp only [ofText, parse, hread, bind, Except.bind]
  cases ofEntries text.toList.length entries <;> simp [Except.mapError]

/-- **The schema is enforced exactly** on documents that give range and output by their keys and the
format by its name, if at all: one is accepted just if it fits the rules, the settings are then what
it holds, and otherwise the fault is one of the configuration that the user can mend. -/
theorem accepts_exactly {text : String} (hread : Toml.read text.toList = .ok entries)
    (hscope : entries.ByKeys) :
    ((∃ settings, ofText text = .ok settings) ↔ entries.Fits rules) ∧
      (∀ settings, ofText text = .ok settings → entries.Holds settings.content) ∧
      ∀ fault, ofText text = .error fault →
        (∃ problem, fault = .configuration "toml_parsing" (.toml problem)) ∧
          fault.exitCode = 1 := by
  have hwell : entries.WellFormed := Toml.read_wellFormed hread
  refine ⟨⟨?_, ?_⟩, ?_, ?_⟩
  · rintro ⟨settings, h⟩
    exact fits_of_ofEntries hwell hscope ((ofText_eq_ok hread).1 h)
  · intro hfits
    obtain ⟨settings, hholds⟩ := exists_holds hwell hfits
    exact ⟨settings, ofText_of_holds hread hholds⟩
  · intro settings h
    exact holds_of_ofEntries hwell hscope ((ofText_eq_ok hread).1 h)
  · intro fault h
    unfold ofText at h
    cases hparse : parse text with
    | ok settings =>
      rw [hparse] at h
      cases h
    | error problem =>
      rw [hparse] at h
      cases h
      exact ⟨⟨problem, rfl⟩, rfl⟩

/-- A document with the name of a format in upper case, whose ranges are in order. -/
theorem accepts_exactly_of_upper_case :
    let text := "output.format='CSV'\nrange=\x7bend=9,start=-1\x7d"
    let entries : Entries :=
      [(⟨"output", 42⟩, .table 42 .dotted [(⟨"format", 35⟩, .scalar 28 (.string "CSV"))]),
        (⟨"range", 22⟩, .table 16 .inline [(⟨"end", 15⟩, .scalar 11 (.integer (some 9))),
          (⟨"start", 9⟩, .scalar 3 (.integer (some (-1))))])]
    Toml.read text.toList = .ok entries ∧ entries.ByKeys ∧
      ((∃ settings, ofText text = .ok settings) ↔ entries.Fits rules) ∧
      ¬∃ settings, ofText text = .ok settings := by
  intro text entries
  have hread : Toml.read text.toList = .ok entries := by
    unfold text entries
    decide +kernel
  have hscope : entries.ByKeys := by
    constructor
    · intro mark ofTables items hget
      cases hget
    · intro mark ofTables items hget
      cases hget
    · intro mark origin inner hget
      cases hget
      intro mark origin inner hget
      cases hget
  have haccepts := (accepts_exactly hread hscope).1
  refine ⟨hread, hscope, haccepts, fun hread => ?_⟩
  obtain ⟨_, _, inner, hnode, hfits⟩ := (haccepts.1 hread).fits _ (.tail _ (.head _)) _ rfl
  cases hnode
  obtain ⟨format, _, hname⟩ := hfits.fits _ (.head _) _ rfl
  cases format <;> simp [Format.name] at hname

end Settings

end Countoff
