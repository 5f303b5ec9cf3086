import Countoff.Proofs.Toml.Table
import Countoff.Settings.Reading
import Mathlib.Data.Option.Basic

/-!
# Documents that hold settings

Settings call for a content: what has to stand in a table, and under which names. A table holds a
content if its entries are those, in any order and at any marks (`Entries.Holds`). Whatever a
document looks like otherwise, the settings that it holds are read from it
(`Settings.ofText_of_holds`).
-/

namespace Countoff

open Toml (Entries Key Node Scalar)

/-! ## What settings call for -/

/-- What has to stand under which names. -/
abbrev Content := List (String × (Node → Prop))

def Toml.Node.IsScalar (value : Scalar) (node : Node) : Prop :=
  ∃ mark, node = .scalar mark value

def Toml.Node.IsTable (holds : Entries → Prop) (node : Node) : Prop :=
  ∃ mark origin entries, node = .table mark origin entries ∧ holds entries

/-- Every entry of a table belongs to a content, and no name of the content is missing. -/
structure Toml.Entries.Holds (entries : Entries) (content : Content) : Prop where
  only : ∀ key node, (key, node) ∈ entries → ∃ holds, (key.name, holds) ∈ content ∧ holds node
  all : ∀ name holds, (name, holds) ∈ content → ∃ entry ∈ entries, entry.1.name = name

def RangeSettings.content (range : RangeSettings) : Content :=
  ("start", Node.IsScalar (.integer (some range.start.toInt))) ::
    ("end", Node.IsScalar (.integer (some range.stop.toInt))) ::
    (range.inclusive.map fun inclusive => ("inclusive", Node.IsScalar (.boolean inclusive))).toList

def OutputSettings.content (output : OutputSettings) : Content :=
  (output.format.map fun format => ("format", Node.IsScalar (.string format.name))).toList ++
    (output.path.map fun path => ("path", Node.IsScalar (.string path))).toList

def Settings.content (settings : Settings) : Content :=
  ("range", Node.IsTable (·.Holds settings.range.content)) ::
    (settings.output.map fun output => ("output", Node.IsTable (·.Holds output.content))).toList

/-! ## Looking at every entry -/

namespace Reader

variable {entries : Entries}

theorem mem_insertSorted {entry other : Key × Node} :
    other ∈ insertSorted entry entries ↔ other = entry ∨ other ∈ entries := by
  induction entries with
  | nil => simp [insertSorted]
  | cons first entries ih =>
    unfold insertSorted
    split
    · rw [List.mem_cons, ih, List.mem_cons, or_left_comm]
    · rw [List.mem_cons]

theorem mem_sorted {entry : Key × Node} : entry ∈ sorted entries ↔ entry ∈ entries := by
  unfold sorted
  induction entries with
  | nil => simp
  | cons first entries ih => rw [List.foldr_cons, mem_insertSorted, ih, List.mem_cons]

theorem forM_eq_ok {check : Key × Node → Except Flaw Unit} :
    List.forM entries check = .ok () ↔ ∀ entry ∈ entries, check entry = .ok () := by
  induction entries with
  | nil => simp [pure, Except.pure]
  | cons first entries ih =>
    rw [List.forall_mem_cons, ← ih]
    show (check first >>= fun _ => List.forM entries check) = _ ↔ _
    cases check first <;> simp [bind, Except.bind]

/-- In whatever order the entries are looked at, all of them have to be right. -/
theorem checkAll_eq_ok {check : Key → Node → Except Flaw Unit} :
    checkAll check entries = .ok () ↔
      ∀ key node, (key, node) ∈ entries → check key node = .ok () := by
  rw [checkAll, forM_eq_ok]
  simp only [mem_sorted, Prod.forall]

theorem check_of_ok {α : Type} {reader : Reader α} {node : Node} {value : α}
    (h : reader node = .ok value) : check reader node = .ok () := by
  rw [check, h]
  rfl

end Reader

/-! ## Looking an entry up -/

section LookUp

variable {entries : Entries} {content : Content} {name : String} {holds : Node → Prop}

theorem Toml.Entries.Holds.get?_eq_some (h : entries.Holds content)
    (hname : (name, holds) ∈ content) :
    ∃ node holds, entries.get? name = some node ∧ (name, holds) ∈ content ∧ holds node := by
  obtain ⟨entry, hentry, hentryName⟩ := h.all name holds hname
  cases hget : entries.get? name with
  | none => exact absurd hentryName (Toml.Entries.get?_eq_none.1 hget entry hentry)
  | some node =>
    obtain ⟨key, hkey, rfl⟩ := Toml.Entries.mem_of_get? hget
    obtain ⟨holds, hcontent, hholds⟩ := h.only key node hkey
    exact ⟨node, holds, rfl, hcontent, hholds⟩

theorem Toml.Entries.Holds.get?_eq_none (h : entries.Holds content)
    (hname : ∀ holds, (name, holds) ∉ content) : entries.get? name = none := by
  refine Toml.Entries.get?_eq_none.2 ?_
  rintro ⟨key, node⟩ hentry rfl
  obtain ⟨holds, hcontent, -⟩ := h.only key node hentry
  exact hname holds hcontent

namespace Toml.Entries.Holds

theorem nil : Entries.Holds [] [] :=
  ⟨nofun, nofun⟩

theorem cons {key : Key} {node : Node} (hnode : holds node) (h : entries.Holds content) :
    Entries.Holds ((key, node) :: entries) ((key.name, holds) :: content) where
  only := by
    intro other value hentry
    rcases List.mem_cons.1 hentry with heq | hentry
    · cases heq
      exact ⟨holds, List.mem_cons_self, hnode⟩
    · obtain ⟨wanted, hcontent, hwanted⟩ := h.only other value hentry
      exact ⟨wanted, List.mem_cons_of_mem _ hcontent, hwanted⟩
  all := by
    intro name wanted hcontent
    rcases List.mem_cons.1 hcontent with heq | hcontent
    · cases heq
      exact ⟨(key, node), List.mem_cons_self, rfl⟩
    · obtain ⟨entry, hentry, hname⟩ := h.all name wanted hcontent
      exact ⟨entry, List.mem_cons_of_mem _ hentry, hname⟩

/-- The order of a content does not matter. -/
theorem perm {order : Content} (h : entries.Holds order) (hperm : order.Perm content) :
    entries.Holds content where
  only key node hentry := by
    obtain ⟨holds, hcontent, hholds⟩ := h.only key node hentry
    exact ⟨holds, hperm.mem_iff.1 hcontent, hholds⟩
  all name holds hcontent := h.all name holds (hperm.mem_iff.2 hcontent)

end Toml.Entries.Holds

namespace Reader

theorem checkAll_of_holds {check : Key → Node → Except Flaw Unit} (h : entries.Holds content)
    (hcheck : ∀ key node holds, (key.name, holds) ∈ content → holds node →
      check key node = .ok ()) :
    checkAll check entries = .ok () := by
  refine checkAll_eq_ok.2 fun key node hentry => ?_
  obtain ⟨holds, hcontent, hholds⟩ := h.only key node hentry
  exact hcheck key node holds hcontent hholds

variable {α : Type} {reader : Reader α}

theorem required_of_holds {value : α} (h : entries.Holds content)
    (hname : ∀ other, (name, other) ∈ content ↔ other = holds)
    (hreader : ∀ node, holds node → reader node = .ok value) (mark : Nat) :
    required mark entries name reader = .ok value := by
  obtain ⟨node, other, hget, hcontent, hother⟩ := h.get?_eq_some ((hname holds).2 rfl)
  rw [(hname other).1 hcontent] at hother
  rw [required, hget]
  exact hreader node hother

/-- An optional value is in the content if there is one. -/
theorem optional_of_holds {value : Option α} {holds : α → Node → Prop} (h : entries.Holds content)
    (hname : ∀ other, (name, other) ∈ content ↔ ∃ given, value = some given ∧ other = holds given)
    (hreader : ∀ given node, holds given node → reader node = .ok given) :
    optional entries name reader = .ok value := by
  cases value with
  | none =>
    have hnone : ∀ other, (name, other) ∉ content := by simp [hname]
    rw [optional, h.get?_eq_none hnone]
  | some value =>
    obtain ⟨node, other, hget, hcontent, hother⟩ :=
      h.get?_eq_some ((hname (holds value)).2 ⟨value, rfl, rfl⟩)
    obtain ⟨given, hgiven, rfl⟩ := (hname other).1 hcontent
    cases hgiven
    rw [optional, hget]
    simp only [hreader value node hother]
    rfl

end Reader

end LookUp

/-! ## Reading -/

theorem RangeSettings.mem_content {range : RangeSettings} {name : String} {holds : Node → Prop} :
    (name, holds) ∈ range.content ↔
      name = "start" ∧ holds = Node.IsScalar (.integer (some range.start.toInt)) ∨
      name = "end" ∧ holds = Node.IsScalar (.integer (some range.stop.toInt)) ∨
      name = "inclusive" ∧ ∃ inclusive, range.inclusive = some inclusive ∧
        holds = Node.IsScalar (.boolean inclusive) := by
  unfold RangeSettings.content
  cases range.inclusive <;> simp

theorem OutputSettings.mem_content {output : OutputSettings} {name : String}
    {holds : Node → Prop} :
    (name, holds) ∈ output.content ↔
      name = "format" ∧ (∃ format, output.format = some format ∧
        holds = Node.IsScalar (.string format.name)) ∨
      name = "path" ∧ ∃ path, output.path = some path ∧ holds = Node.IsScalar (.string path) := by
  unfold OutputSettings.content
  cases output.format <;> cases output.path <;> simp

theorem Settings.mem_content {settings : Settings} {name : String} {holds : Node → Prop} :
    (name, holds) ∈ settings.content ↔
      name = "range" ∧ holds = Node.IsTable (·.Holds settings.range.content) ∨
      name = "output" ∧ ∃ output, settings.output = some output ∧
        holds = Node.IsTable (·.Holds output.content) := by
  unfold Settings.content
  cases settings.output <;> simp

namespace Reader

theorem int64_of_isScalar {node : Node} {n : Int64}
    (h : node.IsScalar (.integer (some n.toInt))) : int64 node = .ok n := by
  have hhigh : n.toInt ≤ Int64.maxValue.toInt := by
    have hmax : Int64.maxValue.toInt = 2 ^ 63 - 1 := by decide
    have hlt := n.toInt_le
    omega
  obtain ⟨mark, rfl⟩ := h
  simp only [int64]
  rw [if_pos ⟨n.minValue_le_toInt, hhigh⟩, Int64.ofInt_toInt]

theorem boolean_of_isScalar {node : Node} {b : Bool} (h : node.IsScalar (.boolean b)) :
    boolean node = .ok b := by
  obtain ⟨mark, rfl⟩ := h
  rfl

theorem string_of_isScalar {node : Node} {text : String} (h : node.IsScalar (.string text)) :
    string node = .ok text := by
  obtain ⟨mark, rfl⟩ := h
  rfl

theorem format_of_isScalar {node : Node} {f : Format} (h : node.IsScalar (.string f.name)) :
    format node = .ok f := by
  obtain ⟨mark, rfl⟩ := h
  simp only [format, formatName, Format.ofName?_name]

theorem range_of_isTable {node : Node} {settings : RangeSettings}
    (h : node.IsTable (·.Holds settings.content)) : range node = .ok settings := by
  obtain ⟨mark, origin, entries, rfl, h⟩ := h
  have hcheck : checkAll rangeEntry entries = .ok () := by
    refine checkAll_of_holds h fun key node holds hcontent hholds => ?_
    rcases RangeSettings.mem_content.1 hcontent with
      ⟨hname, rfl⟩ | ⟨hname, rfl⟩ | ⟨hname, inclusive, -, rfl⟩
    · simp [rangeEntry, hname, check_of_ok (int64_of_isScalar hholds)]
    · simp [rangeEntry, hname, check_of_ok (int64_of_isScalar hholds)]
    · simp [rangeEntry, hname, check_of_ok (boolean_of_isScalar hholds)]
  have hstart : required mark entries "start" int64 = .ok settings.start :=
    required_of_holds h (by simp [RangeSettings.mem_content]) (fun _ => int64_of_isScalar) mark
  have hstop : required mark entries "end" int64 = .ok settings.stop :=
    required_of_holds h (by simp [RangeSettings.mem_content]) (fun _ => int64_of_isScalar) mark
  have hinclusive : optional entries "inclusive" boolean = .ok settings.inclusive :=
    optional_of_holds h (by simp [RangeSettings.mem_content]) fun _ _ => boolean_of_isScalar
  simp only [range, hcheck, hstart, hstop, hinclusive]
  rfl

theorem output_of_isTable {node : Node} {settings : OutputSettings}
    (h : node.IsTable (·.Holds settings.content)) : output node = .ok settings := by
  obtain ⟨mark, origin, entries, rfl, h⟩ := h
  have hcheck : checkAll outputEntry entries = .ok () := by
    refine checkAll_of_holds h fun key node holds hcontent hholds => ?_
    rcases OutputSettings.mem_content.1 hcontent with
      ⟨hname, given, -, rfl⟩ | ⟨hname, path, -, rfl⟩
    · simp [outputEntry, hname, check_of_ok (format_of_isScalar hholds)]
    · simp [outputEntry, hname, check_of_ok (string_of_isScalar hholds)]
  have hformat : optional entries "format" format = .ok settings.format :=
    optional_of_holds h (by simp [OutputSettings.mem_content]) fun _ _ => format_of_isScalar
  have hpath : optional entries "path" string = .ok settings.path :=
    optional_of_holds h (by simp [OutputSettings.mem_content]) fun _ _ => string_of_isScalar
  simp only [output, hcheck, hformat, hpath]
  rfl

end Reader

namespace Settings

variable {settings : Settings} {entries : Entries}

theorem ofEntries_of_holds (h : entries.Holds settings.content) (mark : Nat) :
    ofEntries mark entries = .ok settings := by
  have hcheck : Reader.checkAll Reader.rootEntry entries = .ok () := by
    refine Reader.checkAll_of_holds h fun key node holds hcontent hholds => ?_
    rcases mem_content.1 hcontent with ⟨hname, rfl⟩ | ⟨hname, output, -, rfl⟩
    · simp [Reader.rootEntry, hname, Reader.check_of_ok (Reader.range_of_isTable hholds)]
    · simp [Reader.rootEntry, hname, Reader.check_of_ok (Reader.output_of_isTable hholds)]
  have hrange : Reader.required mark entries "range" Reader.range = .ok settings.range :=
    Reader.required_of_holds h (by simp [mem_content]) (fun _ => Reader.range_of_isTable) mark
  have houtput : Reader.optional entries "output" Reader.output = .ok settings.output :=
    Reader.optional_of_holds h (by simp [mem_content]) fun _ _ => Reader.output_of_isTable
  simp only [ofEntries, hcheck, hrange, houtput]
  rfl

/-- The settings that a document holds are read from its text. -/
theorem ofText_of_holds {text : String} (hread : Toml.read text.toList = .ok entries)
    (h : entries.Holds settings.content) : ofText text = .ok settings := by
  have hentries := ofEntries_of_holds h text.toList.length
  simp only [ofText, parse, hread, hentries, bind, Except.bind, Except.mapError]

end Settings

end Countoff
