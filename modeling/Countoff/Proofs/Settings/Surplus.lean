import Countoff.Proofs.Settings.Schema
import Mathlib.Data.List.Perm.Subperm

/-!
# What a configuration leaves unread

A document that is accepted is read up to its last value, with one exception: where a range or an
output is given as an array of its parts, the items behind them are not looked at
(`Toml.Entries.surplus`). All other values of the document are parts of the settings, each at one
place (`Settings.scalars_accounted`). The exception is real (`Settings.surplus_ignored`).
-/

namespace Countoff

open Toml (Entries Key Node Scalar)

/-! ## The values that are written -/

namespace Toml

mutual

/-- The values without parts that are written in a value. -/
def Node.scalars : Node → List Scalar
  | .scalar _ value => [value]
  | .array _ _ items => itemScalars items
  | .table _ _ entries => Entries.scalars entries

def itemScalars : List Node → List Scalar
  | [] => []
  | item :: items => item.scalars ++ itemScalars items

def Entries.scalars : List (Key × Node) → List Scalar
  | [] => []
  | (_, node) :: entries => node.scalars ++ Entries.scalars entries

end

/-- The values that are written in the items of an array behind its first ones. -/
def Node.surplus (parts : Nat) : Node → List Scalar
  | .array _ _ items => itemScalars (items.drop parts)
  | _ => []

namespace Entries

variable {entries : Entries}

/-- The values that are written under a name. -/
def scalarsAt (entries : Entries) (name : String) : List Scalar :=
  ((entries.get? name).map Node.scalars).getD []

def surplusAt (entries : Entries) (name : String) (parts : Nat) : List Scalar :=
  ((entries.get? name).map (Node.surplus parts)).getD []

/-- The values behind the three parts of a range and the two of an output. -/
def surplus (entries : Entries) : List Scalar :=
  entries.surplusAt "range" 3 ++ entries.surplusAt "output" 2

theorem scalarsAt_cons_self {key : Key} {node : Node} :
    scalarsAt ((key, node) :: entries) key.name = node.scalars := by
  simp [scalarsAt, get?]

theorem scalarsAt_cons_of_ne {key : Key} {node : Node} {name : String} (h : key.name ≠ name) :
    scalarsAt ((key, node) :: entries) name = entries.scalarsAt name := by
  simp [scalarsAt, get?, h]

/-- Where no key stands twice, all values are found under the names of the keys. -/
theorem scalars_perm {names : List String} (hnames : names.Nodup)
    (hdistinct : (entries.map (·.1.name)).Nodup)
    (hknown : ∀ entry ∈ entries, entry.1.name ∈ names) :
    (scalars entries).Perm (names.flatMap entries.scalarsAt) := by
  induction entries with
  | nil =>
    have hnil : ∀ name, scalarsAt [] name = [] := fun _ => rfl
    simp [scalars, hnil]
  | cons entry entries ih =>
    obtain ⟨key, node⟩ := entry
    rw [List.map_cons, List.nodup_cons] at hdistinct
    rw [List.forall_mem_cons] at hknown
    obtain ⟨before, after, rfl⟩ := List.append_of_mem hknown.1
    have hbefore : ∀ name ∈ before, key.name ≠ name := by
      rintro name hname rfl
      exact List.disjoint_of_nodup_append hnames hname List.mem_cons_self
    have hafter : ∀ name ∈ after, key.name ≠ name := by
      rintro name hname rfl
      exact (List.nodup_cons.1 hnames.of_append_right).1 hname
    -- under all other names the first entry changes nothing, and under its own it stands alone
    have hself : scalarsAt entries key.name = [] := by
      have hnone : get? entries key.name = none := by
        refine get?_eq_none.2 fun other hother hname => hdistinct.1 ?_
        exact hname ▸ List.mem_map_of_mem hother
      rw [scalarsAt, hnone]
      rfl
    have hfront : before.flatMap (scalarsAt ((key, node) :: entries)) =
        before.flatMap (scalarsAt entries) :=
      List.flatMap_congr fun name hname => scalarsAt_cons_of_ne (hbefore name hname)
    have hback : after.flatMap (scalarsAt ((key, node) :: entries)) =
        after.flatMap (scalarsAt entries) :=
      List.flatMap_congr fun name hname => scalarsAt_cons_of_ne (hafter name hname)
    have hrest := ih hdistinct.2 hknown.2
    rw [List.flatMap_append, List.flatMap_cons, hself, List.nil_append] at hrest
    rw [scalars, List.flatMap_append, List.flatMap_cons, hfront, hback, scalarsAt_cons_self]
    exact (hrest.append_left _).trans (List.perm_append_comm_assoc ..)

end Entries

end Toml

/-! ## The values of settings -/

def RangeSettings.scalars (range : RangeSettings) : List Scalar :=
  .integer (some range.start.toInt) :: .integer (some range.stop.toInt) ::
    (range.inclusive.map .boolean).toList

def OutputSettings.scalars (output : OutputSettings) : List Scalar :=
  (output.format.map fun format => .string format.name).toList ++
    (output.path.map .string).toList

/-- The values of the settings that are not left out. -/
def Settings.scalars (settings : Settings) : List Scalar :=
  settings.range.scalars ++ (settings.output.map OutputSettings.scalars).getD []

/-! ## Accounts of one value -/

section Values

variable {node : Node} {entries : Entries} {name : String}

theorem Toml.Node.IsScalar.scalars_eq {value : Scalar} (h : node.IsScalar value) :
    node.scalars = [value] := by
  obtain ⟨mark, rfl⟩ := h
  rfl

theorem Toml.Entries.scalarsAt_of_gives {α : Type} {holds : α → Node → Prop} {value : Option α}
    {scalar : α → Scalar} (h : entries.Gives name holds value)
    (hscalar : ∀ value node, holds value node → node.IsScalar (scalar value)) :
    entries.scalarsAt name = (value.map scalar).toList := by
  cases value with
  | none =>
    have hget : entries.get? name = none := h
    rw [scalarsAt, hget]
    rfl
  | some value =>
    obtain ⟨node, hget, hholds⟩ := h
    rw [scalarsAt, hget]
    exact (hscalar value node hholds).scalars_eq

namespace Reader

/-- What stands behind the name of a format that is given as a table says nothing. -/
theorem scalars_of_nothing (h : nothing node = .ok ()) : node.scalars = [] := by
  unfold nothing at h
  split at h
  · rfl
  · rfl
  · cases h
  · cases h
  · cases h

theorem scalars_of_format {f : Format} (h : format node = .ok f) :
    node.scalars.Sublist [.string f.name] := by
  rcases format_eq_ok h with hscalar | ⟨_, _, _, inner, rfl, hnothing⟩
  · rw [hscalar.scalars_eq]
  · show (inner.scalars ++ []).Sublist _
    rw [scalars_of_nothing hnothing]
    exact List.nil_sublist _

theorem scalarsAt_of_format {f : Option Format}
    (h : entries.Gives "format" (fun value node => format node = .ok value) f) :
    (entries.scalarsAt "format").Sublist (f.map fun format => .string format.name).toList := by
  cases f with
  | none =>
    have hget : entries.get? "format" = none := h
    rw [Toml.Entries.scalarsAt, hget]
    exact List.nil_sublist _
  | some f =>
    obtain ⟨node, hget, hread⟩ := h
    rw [Toml.Entries.scalarsAt, hget]
    exact scalars_of_format hread

theorem outputEntry_known {key : Key} (h : outputEntry key node = .ok ()) :
    key.name ∈ outputKeys := by
  unfold outputEntry at h
  split at h
  · next hname => exact hname ▸ List.mem_cons_self
  · split at h
    · next hname => exact hname ▸ List.mem_cons_of_mem _ List.mem_cons_self
    · cases h

theorem rootEntry_known {key : Key} (h : rootEntry key node = .ok ()) : key.name ∈ rootKeys := by
  unfold rootEntry at h
  split at h
  · next hname => exact hname ▸ List.mem_cons_self
  · split at h
    · next hname => exact hname ▸ List.mem_cons_of_mem _ List.mem_cons_self
    · cases h

/-! ## Accounts of ranges and outputs -/

/-- All values of a range are its parts, save those behind them. -/
theorem scalars_of_range {range : RangeSettings} (hwell : node.WellFormed)
    (h : Reader.range node = .ok range) :
    node.scalars.Perm (range.scalars ++ node.surplus 3) := by
  rcases range_cases h with ⟨mark, origin, entries, rfl⟩ |
    ⟨mark, ofTables, start, stop, inclusive, surplus, rfl, hstart, hstop, value, hvalue, hsome⟩
  · obtain ⟨-, hstart, hstop, hinclusive⟩ := range_table h
    simp only [required_eq_ok, optional_eq_ok, int64_eq_ok, boolean_eq_ok]
      at hstart hstop hinclusive
    have hknown := (fits_of_range h).known
    have hperm := Toml.Entries.scalars_perm (by decide : rangeKeys.Nodup)
      (Toml.Node.wellFormed_table.1 hwell).names hknown
    have hparts : rangeKeys.flatMap (Toml.Entries.scalarsAt entries) = range.scalars := by
      simp only [rangeKeys, List.flatMap_cons, List.flatMap_nil,
        Toml.Entries.scalarsAt_of_gives hstart fun _ _ => id,
        Toml.Entries.scalarsAt_of_gives hstop fun _ _ => id,
        Toml.Entries.scalarsAt_of_gives hinclusive fun _ _ => id]
      simp [RangeSettings.scalars]
    rw [hparts] at hperm
    show (Toml.Entries.scalars entries).Perm (range.scalars ++ [])
    rwa [List.append_nil]
  · show (start.scalars ++ (stop.scalars ++ (inclusive.scalars ++ Toml.itemScalars surplus))).Perm
      (range.scalars ++ Toml.itemScalars surplus)
    rw [(int64_eq_ok.1 hstart).scalars_eq, (int64_eq_ok.1 hstop).scalars_eq,
      (boolean_eq_ok.1 hvalue).scalars_eq, RangeSettings.scalars, hsome]
    rfl

/-- All values of an output are its parts, save those behind them. Only the format need not be
written as a value. -/
theorem scalars_of_output {output : OutputSettings} (hwell : node.WellFormed)
    (h : Reader.output node = .ok output) : ∃ kept, kept.Sublist output.scalars ∧
      node.scalars.Perm (kept ++ node.surplus 2) := by
  rcases output_cases h with ⟨mark, origin, entries, rfl⟩ |
    ⟨mark, ofTables, first, path, surplus, rfl, ⟨f, hf, hsome⟩, value, hvalue, hpath⟩
  · obtain ⟨hcheck, hformat, hpath⟩ := output_table h
    simp only [optional_eq_ok, string_eq_ok] at hformat hpath
    have hknown : ∀ entry ∈ entries, entry.1.name ∈ outputKeys := by
      rintro ⟨key, node⟩ hentry
      exact outputEntry_known (checkAll_eq_ok.1 hcheck key node hentry)
    have hperm := Toml.Entries.scalars_perm (by decide : outputKeys.Nodup)
      (Toml.Node.wellFormed_table.1 hwell).names hknown
    have hparts : outputKeys.flatMap (Toml.Entries.scalarsAt entries) =
        Toml.Entries.scalarsAt entries "format" ++ (output.path.map .string).toList := by
      simp only [outputKeys, List.flatMap_cons, List.flatMap_nil,
        Toml.Entries.scalarsAt_of_gives hpath fun _ _ => id]
      simp
    rw [hparts] at hperm
    refine ⟨_, (scalarsAt_of_format hformat).append (List.Sublist.refl _), ?_⟩
    show (Toml.Entries.scalars entries).Perm (_ ++ [])
    rwa [List.append_nil]
  · refine ⟨first.scalars ++ path.scalars, ?_, ?_⟩
    · rw [(string_eq_ok.1 hvalue).scalars_eq, OutputSettings.scalars, hsome, hpath]
      exact (scalars_of_format hf).append (List.Sublist.refl _)
    · show (first.scalars ++ (path.scalars ++ Toml.itemScalars surplus)).Perm _
      rw [← List.append_assoc]
      exact List.Perm.refl _

end Reader

end Values

/-! ## The account of a document -/

namespace Settings

variable {entries : Entries} {settings : Settings} {mark : Nat}

theorem scalars_of_ofEntries (hwell : entries.WellFormed)
    (h : ofEntries mark entries = .ok settings) : ∃ kept, kept.Sublist settings.scalars ∧
      (Toml.Entries.scalars entries).Perm (kept ++ entries.surplus) := by
  obtain ⟨hcheck, hrange, houtput⟩ := ofEntries_eq_ok h
  obtain ⟨range, hget, hrange⟩ := Reader.required_eq_ok.1 hrange
  have houtput := Reader.optional_eq_ok.1 houtput
  have hknown : ∀ entry ∈ entries, entry.1.name ∈ Reader.rootKeys := by
    rintro ⟨key, node⟩ hentry
    exact Reader.rootEntry_known (Reader.checkAll_eq_ok.1 hcheck key node hentry)
  have hperm := Toml.Entries.scalars_perm (by decide : Reader.rootKeys.Nodup) hwell.names hknown
  have hfirst := Reader.scalars_of_range (hwell.node hget) hrange
  have hsecond : ∃ kept, kept.Sublist ((settings.output.map OutputSettings.scalars).getD []) ∧
      (entries.scalarsAt "output").Perm (kept ++ entries.surplusAt "output" 2) := by
    cases hvalue : settings.output with
    | none =>
      rw [hvalue] at houtput
      have hnone : entries.get? "output" = none := houtput
      refine ⟨[], List.nil_sublist _, ?_⟩
      simp [Toml.Entries.scalarsAt, Toml.Entries.surplusAt, hnone]
    | some output =>
      rw [hvalue] at houtput
      obtain ⟨node, hget, hread⟩ := houtput
      simp only [Toml.Entries.scalarsAt, Toml.Entries.surplusAt, hget]
      exact Reader.scalars_of_output (hwell.node hget) hread
  obtain ⟨kept, hkept, hsecond⟩ := hsecond
  refine ⟨settings.range.scalars ++ kept, (List.Sublist.refl _).append hkept, ?_⟩
  have hparts : Reader.rootKeys.flatMap entries.scalarsAt =
      range.scalars ++ entries.scalarsAt "output" := by
    simp [Reader.rootKeys, Toml.Entries.scalarsAt, hget]
  have hsurplus : entries.surplus = range.surplus 3 ++ entries.surplusAt "output" 2 := by
    simp [Toml.Entries.surplus, Toml.Entries.surplusAt, hget]
  rw [hparts] at hperm
  rw [hsurplus]
  refine hperm.trans ((hfirst.append hsecond).trans ?_)
  -- what is kept of both comes first
  rw [List.append_assoc, List.append_assoc]
  refine List.Perm.append_left _ ?_
  rw [← List.append_assoc, ← List.append_assoc]
  exact List.Perm.append_right _ List.perm_append_comm

/-- **Every value of a document that is accepted is accounted for**: it is a part of the settings,
or it stands behind the parts of a range or an output that is given as an array. So where nothing
stands there, each value is one of the settings, and there are no more values than settings. -/
theorem scalars_accounted {text : String} (hread : Toml.read text.toList = .ok entries)
    (h : ofText text = .ok settings) :
    (∃ kept, kept.Sublist settings.scalars ∧
      (Toml.Entries.scalars entries).Perm (kept ++ entries.surplus)) ∧
      (entries.surplus = [] →
        (∀ value ∈ Toml.Entries.scalars entries, value ∈ settings.scalars) ∧
          (Toml.Entries.scalars entries).length ≤ settings.scalars.length) := by
  obtain ⟨kept, hkept, hperm⟩ :=
    scalars_of_ofEntries (Toml.read_wellFormed hread) ((ofText_eq_ok hread).1 h)
  refine ⟨⟨kept, hkept, hperm⟩, fun hsurplus => ?_⟩
  rw [hsurplus, List.append_nil] at hperm
  constructor
  · intro value hvalue
    exact hkept.subset (hperm.mem_iff.1 hvalue)
  · rw [hperm.length_eq]
    exact hkept.length_le

/-- Arrays with nothing behind their parts, where the format is not written as a value. -/
theorem scalars_accounted_of_arrays :
    let text := "range=[1,15,true]\noutput=[\x7bcsv=[]\x7d,'p']"
    let entries : Entries :=
      [(⟨"range", 39⟩, .array 33 false [.scalar 32 (.integer (some 1)),
          .scalar 30 (.integer (some 15)), .scalar 27 (.boolean true)]),
        (⟨"output", 21⟩, .array 14 false [.table 13 .inline [(⟨"csv", 12⟩, .array 8 false [])],
          .scalar 4 (.string "p")])]
    let settings : Settings := ⟨⟨1, 15, some true⟩, some ⟨some .csv, some "p"⟩⟩
    Toml.read text.toList = .ok entries ∧ ofText text = .ok settings ∧ entries.surplus = [] ∧
      (∀ value ∈ Toml.Entries.scalars entries, value ∈ settings.scalars) ∧
        (Toml.Entries.scalars entries).length ≤ settings.scalars.length := by
  intro text entries settings
  have hread : Toml.read text.toList = .ok entries := by
    unfold text entries
    decide +kernel
  have htext : ofText text = .ok settings := (ofText_eq_ok hread).2 rfl
  exact ⟨hread, htext, rfl, (scalars_accounted hread htext).2 rfl⟩

/-- A fourth item of a range is neither read nor refused. -/
theorem surplus_ignored :
    ¬∀ (text : String) (entries : Entries) (settings : Settings),
      Toml.read text.toList = .ok entries → ofText text = .ok settings →
        (∀ value ∈ Toml.Entries.scalars entries, value ∈ settings.scalars) ∧
          (Toml.Entries.scalars entries).length ≤ settings.scalars.length := by
  intro hall
  let text := "range=[1,15,true,4]"
  let entries : Entries :=
    [(⟨"range", 19⟩, .array 13 false [.scalar 12 (.integer (some 1)),
      .scalar 10 (.integer (some 15)), .scalar 7 (.boolean true), .scalar 2 (.integer (some 4))])]
  let settings : Settings := ⟨⟨1, 15, some true⟩, none⟩
  have hread : Toml.read text.toList = .ok entries := by
    unfold text entries
    decide +kernel
  have hcount := (hall text entries settings hread ((ofText_eq_ok hread).2 rfl)).2
  exact absurd hcount (by decide)

end Settings

end Countoff
