import Countoff.Proofs.Settings.Reading
import Countoff.Proofs.Toml.Layout
import Countoff.Proofs.Toml.WellFormed

/-!
# Spellings of settings

The texts that say what settings hold (`Settings.Written`): the range and the output, if there is
one, as tables in any notation and order, and their fields in any order and spelling. All of them
are read as the settings (`Settings.ofText_of_written`), whatever the bounds and the path are. What
the settings leave out is not in the text, so a field that is left out stays apart from one that is
given with its usual value. No settings are without such a text (`Settings.exists_written`).
-/

namespace Countoff

open Toml (Arranges CharText DocumentText Entries FieldEntry Fields IntegerText IsBlank KeyText
  LineText Node PairText RootLine Scalar ScalarText StringText TableText TailText
  exists_documentText exists_integerText exists_stringText headed isBlank_nil)

/-! ## What is written -/

def RangeSettings.fields (range : RangeSettings) : Fields :=
  ("start", .integer (some range.start.toInt)) :: ("end", .integer (some range.stop.toInt)) ::
    (range.inclusive.map fun inclusive => ("inclusive", .boolean inclusive)).toList

def OutputSettings.fields (output : OutputSettings) : Fields :=
  (output.format.map fun format => ("format", .string format.name)).toList ++
    (output.path.map fun path => ("path", .string path)).toList

def Settings.tables (settings : Settings) : List (String × Fields) :=
  ("range", settings.range.fields) ::
    (settings.output.map fun output => ("output", output.fields)).toList

/-- A text writes settings if it arranges their tables, the lines of the root in any order and the
tables with headers in any order behind them. -/
inductive Settings.Written (settings : Settings) (text : String) : Prop where
  | intro {root lines : List RootLine} {sections order : List (String × Fields)}
    (harranges : Arranges settings.tables root sections) (hlines : lines.Perm root)
    (horder : order.Perm sections)
    (htext : DocumentText (lines.map .root ++ order.flatMap headed) text.toList) :
    Settings.Written settings text

/-! ## Tables that hold what is written -/

def Toml.contentOf (fields : Fields) : Content :=
  fields.map fun field => (field.1, Node.IsScalar field.2)

theorem Toml.Entries.holds_of_fieldEntry {fields : Fields} {entries : Entries}
    (h : List.Forall₂ FieldEntry fields entries) : entries.Holds (Toml.contentOf fields) := by
  induction h with
  | nil => exact .nil
  | cons hentry _ ih =>
    rw [Toml.contentOf, List.map_cons, ← hentry.name]
    exact .cons hentry.node ih

theorem Toml.Node.IsTableOf.isTable {fields : Fields} {node : Node} (h : node.IsTableOf fields) :
    node.IsTable (·.Holds (Toml.contentOf fields)) := by
  obtain ⟨mark, origin, entries, order, rfl, hperm, hentries⟩ := h
  refine ⟨mark, origin, entries, rfl, ?_⟩
  exact (Toml.Entries.holds_of_fieldEntry hentries).perm (hperm.map _)

theorem Toml.Entries.AreTables.holds {entries : Entries} {tables : List (String × Fields)}
    (h : entries.AreTables tables) (hentries : entries.WellFormed) :
    entries.Holds (tables.map fun table =>
      (table.1, Node.IsTable (·.Holds (Toml.contentOf table.2)))) where
  only key node hentry := by
    obtain ⟨fields, hmem, hnode⟩ := h.only key.name node (hentries.get?_of_mem hentry)
    exact ⟨_, List.mem_map.2 ⟨_, hmem, rfl⟩, hnode.isTable⟩
  all name holds hcontent := by
    obtain ⟨table, htable, heq⟩ := List.mem_map.1 hcontent
    cases heq
    obtain ⟨node, hnode⟩ := h.all table htable
    obtain ⟨key, hentry, hname⟩ := Toml.Entries.mem_of_get? hnode
    exact ⟨_, hentry, hname⟩

theorem RangeSettings.contentOf_fields (range : RangeSettings) :
    Toml.contentOf range.fields = range.content := by
  unfold fields content
  cases range.inclusive <;> rfl

theorem OutputSettings.contentOf_fields (output : OutputSettings) :
    Toml.contentOf output.fields = output.content := by
  unfold fields content
  cases output.format <;> cases output.path <;> rfl

namespace Settings

variable {settings : Settings}

theorem content_eq_tables (settings : Settings) :
    settings.content = settings.tables.map fun table =>
      (table.1, Node.IsTable (·.Holds (Toml.contentOf table.2))) := by
  unfold content tables
  rw [List.map_cons, RangeSettings.contentOf_fields]
  cases settings.output with
  | none => rfl
  | some output =>
    simp only [Option.map_some, Option.toList_some, List.map_singleton]
    rw [OutputSettings.contentOf_fields]

theorem nodup_tables (settings : Settings) : (settings.tables.map Prod.fst).Nodup := by
  unfold tables
  cases settings.output <;> simp

theorem nodup_fields (settings : Settings) :
    ∀ table ∈ settings.tables, (table.2.map Prod.fst).Nodup := by
  intro table htable
  rcases List.mem_cons.1 htable with rfl | houtput
  · unfold RangeSettings.fields
    cases settings.range.inclusive <;> simp
  · obtain ⟨output, -, rfl⟩ := Option.map_eq_some_iff.1 (Option.mem_toList.1 houtput)
    unfold OutputSettings.fields
    cases output.format <;> cases output.path <;> simp

/-! ## Reading back -/

/-- **Every spelling of settings is read back as them.** -/
theorem ofText_of_written {text : String} (h : settings.Written text) :
    ofText text = .ok settings := by
  obtain ⟨harranges, hlines, horder, htext⟩ := h
  obtain ⟨entries, hread, htables⟩ := htext.read_of_arranges harranges settings.nodup_tables
    settings.nodup_fields hlines horder
  have hholds := htables.holds (Toml.read_wellFormed hread)
  rw [← content_eq_tables] at hholds
  exact ofText_of_holds hread hholds

/-- A range by dotted keys around an inline table, with escapes, quoted keys and comments. -/
theorem ofText_of_written_around :
    let text := "# rules\nrange.end = +1_0 # ten\r\n" ++
      "output=\x7b'path'=\"\\u00E9\\n\", format=\"csv\"\x7d\nrange.\"start\"=-9_223372036854775808"
    let settings : Settings := ⟨⟨Int64.minValue, 10, none⟩, some ⟨some .csv, some "é\n"⟩⟩
    settings.Written text ∧ ofText text = .ok settings := by
  intro text settings
  -- the values
  have hstart : IntegerText Int64.minValue.toInt "-9_223372036854775808".toList := by
    have hdigits : ∀ d ∈ "223372036854775808".toList, d.isDigit = true := List.all_eq_true.1 rfl
    exact .minus ⟨⟨"9223372036854775808".toList, .group rfl (.itself (by decide) hdigits), rfl⟩,
      nofun⟩ (by decide)
  have hstop : IntegerText (10 : Int64).toInt "+1_0".toList :=
    .plus ⟨⟨['1', '0'], .group rfl (.last rfl), rfl⟩, nofun⟩ rfl
  have hpath : StringText "é\n" "\"\\u00E9\\n\"".toList := by
    have hdigits : List.Forall₂ Toml.HexDigit [0, 0, 14, 9] "00E9".toList :=
      .cons (.lower (by decide)) (.cons (.lower (by decide)) (.cons (.upper (by decide))
        (.cons (.lower (by decide)) .nil)))
    have hletter : CharText 'é' "\\u00E9".toList := .four (.intro hdigits rfl)
    have hbreak : CharText '\n' "\\n".toList := .short (by decide)
    exact .basic (show Toml.BodyText "é\n".toList _ from .cons hletter (.cons hbreak .nil))
  have hformat : StringText "csv" "\"csv\"".toList :=
    .basic (.itself (by simp [Toml.isCommentChar]))
  -- the lines
  have hspace : IsBlank [' '] := by simp [IsBlank, Toml.isSpace]
  have hrange : KeyText "range" "range".toList := .bare (by decide) (List.all_eq_true.1 rfl)
  have hendLine : LineText (.root (.dotted "range" "end" (.integer (some (10 : Int64).toInt))))
      "range.end = +1_0".toList := by
    have hend : KeyText "end" "end".toList := .bare (by decide) (List.all_eq_true.1 rfl)
    exact .dotted (.integer hstop)
      (.intro (.step hrange isBlank_nil isBlank_nil (.last hend)) hspace hspace)
  have hstartLine : LineText
      (.root (.dotted "range" "start" (.integer (some Int64.minValue.toInt))))
      "range.\"start\"=-9_223372036854775808".toList := by
    have hquoted : StringText "start" "\"start\"".toList :=
      .basic (.itself (by simp [Toml.isCommentChar]))
    exact .dotted (.integer hstart)
      (.intro (.step hrange isBlank_nil isBlank_nil (.last (.basic hquoted)))
        isBlank_nil isBlank_nil)
  have houtputLine : LineText
      (.root (.inline "output" [("path", .string "é\n"), ("format", .string "csv")]))
      "output=\x7b'path'=\"\\u00E9\\n\", format=\"csv\"\x7d".toList := by
    have hpathPair : PairText ["path"] "\"\\u00E9\\n\"".toList "'path'=\"\\u00E9\\n\"".toList :=
      .intro (.last (.literal (by simp [Toml.isCommentChar]))) isBlank_nil isBlank_nil
    have hformatPair : PairText ["format"] "\"csv\"".toList "format=\"csv\"".toList :=
      .intro (.last (.bare (by decide) (List.all_eq_true.1 rfl))) isBlank_nil isBlank_nil
    have htable : TableText [("path", .string "é\n"), ("format", .string "csv")]
        "\x7b'path'=\"\\u00E9\\n\", format=\"csv\"\x7d".toList :=
      .fields isBlank_nil (.next (.string hpath) hpathPair isBlank_nil hspace
        (.last (.string hformat) hformatPair)) isBlank_nil
    have hkey : KeyText "output" "output".toList := .bare (by decide) (List.all_eq_true.1 rfl)
    exact .inline htable (.intro (.last hkey) isBlank_nil isBlank_nil)
  -- the rows
  have hrules : TailText "# rules".toList :=
    .comment isBlank_nil
      (List.all_eq_true.1 rfl : ∀ c ∈ " rules".toList, Toml.isCommentChar c = true)
  have hten : TailText " # ten".toList :=
    .comment hspace (List.all_eq_true.1 rfl : ∀ c ∈ " ten".toList, Toml.isCommentChar c = true)
  have hnothing : TailText [] := .blank isBlank_nil
  let lines : List RootLine := [.dotted "range" "end" (.integer (some (10 : Int64).toInt)),
    .inline "output" [("path", .string "é\n"), ("format", .string "csv")],
    .dotted "range" "start" (.integer (some Int64.minValue.toInt))]
  have htext : DocumentText (lines.map .root) text.toList := by
    have hrows := DocumentText.next (.empty hrules) .lineFeed
      (.next (.line isBlank_nil hendLine hten) .carriageReturn
        (.next (.line isBlank_nil houtputLine hnothing) .lineFeed
          (.last (.line isBlank_nil hstartLine hnothing))))
    have hchars : text.toList = "# rules".toList ++ (['\n'] ++
        ([] ++ ("range.end = +1_0".toList ++ " # ten".toList) ++ (['\r', '\n'] ++
        ([] ++ ("output=\x7b'path'=\"\\u00E9\\n\", format=\"csv\"\x7d".toList ++ []) ++ (['\n'] ++
        ([] ++ ("range.\"start\"=-9_223372036854775808".toList ++ []))))))) := by
      decide
    rw [hchars]
    exact hrows
  have harranges : Arranges settings.tables
      [.dotted "range" "start" (.integer (some Int64.minValue.toInt)),
        .dotted "range" "end" (.integer (some (10 : Int64).toInt)),
        .inline "output" [("path", .string "é\n"), ("format", .string "csv")]] [] :=
    .dotted (List.cons_ne_nil _ _) (.inline (List.Perm.swap _ _ []) .nil)
  have hlines : lines.Perm [.dotted "range" "start" (.integer (some Int64.minValue.toInt)),
      .dotted "range" "end" (.integer (some (10 : Int64).toInt)),
      .inline "output" [("path", .string "é\n"), ("format", .string "csv")]] :=
    ((List.Perm.swap _ _ []).cons _).trans (List.Perm.swap _ _ _)
  have hwritten : settings.Written text := .intro harranges hlines (List.Perm.refl []) htext
  exact ⟨hwritten, ofText_of_written hwritten⟩

/-- A field whose name needs no quotes and whose value can be written. -/
def CanStand (field : String × Scalar) : Prop :=
  KeyText field.1 field.1.toList ∧ ∃ text, ScalarText field.2 text

theorem canStand_of_fields {settings : Settings} :
    ∀ table ∈ settings.tables,
      KeyText table.1 table.1.toList ∧ ∀ field ∈ table.2, CanStand field := by
  have hbare : ∀ name ∈ ["range", "start", "end", "inclusive", "output", "format", "path"],
      KeyText name name.toList := by
    have hchars : ∀ name ∈ ["range", "start", "end", "inclusive", "output", "format", "path"],
        name.toList ≠ [] ∧ name.toList.all Toml.isBare = true := by decide
    intro name hname
    exact .bare (hchars name hname).1 (List.all_eq_true.1 (hchars name hname).2)
  have hinteger : ∀ n : Int64, ∃ text, ScalarText (.integer (some n.toInt)) text := by
    intro n
    obtain ⟨text, htext⟩ := exists_integerText n.toInt
    exact ⟨text, .integer htext⟩
  have hstring : ∀ value, ∃ text, ScalarText (.string value) text := by
    intro value
    obtain ⟨text, htext⟩ := exists_stringText value
    exact ⟨text, .string htext⟩
  intro table htable
  rcases List.mem_cons.1 htable with rfl | houtput
  · refine ⟨hbare "range" (by simp), ?_⟩
    refine List.forall_mem_cons.2 ⟨⟨hbare "start" (by simp), hinteger _⟩, ?_⟩
    refine List.forall_mem_cons.2 ⟨⟨hbare "end" (by simp), hinteger _⟩, ?_⟩
    intro field hfield
    obtain ⟨inclusive, -, rfl⟩ := Option.map_eq_some_iff.1 (Option.mem_toList.1 hfield)
    exact ⟨hbare "inclusive" (by simp), _, .boolean inclusive⟩
  · obtain ⟨output, -, rfl⟩ := Option.map_eq_some_iff.1 (Option.mem_toList.1 houtput)
    refine ⟨hbare "output" (by simp), fun field hfield => ?_⟩
    rcases List.mem_append.1 hfield with hfield | hfield
    · obtain ⟨format, -, rfl⟩ := Option.map_eq_some_iff.1 (Option.mem_toList.1 hfield)
      exact ⟨hbare "format" (by simp), hstring _⟩
    · obtain ⟨path, -, rfl⟩ := Option.map_eq_some_iff.1 (Option.mem_toList.1 hfield)
      exact ⟨hbare "path" (by simp), hstring _⟩

/-- There is a text for all settings: that of their tables under headers, at the least. -/
theorem exists_written (settings : Settings) : ∃ text, settings.Written text := by
  have hlines : ∀ line ∈ settings.tables.flatMap headed, ∃ text, LineText line text := by
    intro line hline
    obtain ⟨table, htable, hline⟩ := List.mem_flatMap.1 hline
    obtain ⟨hkey, hfields⟩ := canStand_of_fields table htable
    rcases List.mem_cons.1 hline with rfl | hline
    · exact ⟨_, .header isBlank_nil hkey isBlank_nil⟩
    · obtain ⟨field, hfield, rfl⟩ := List.mem_map.1 hline
      obtain ⟨hname, scalar, hscalar⟩ := hfields field hfield
      exact ⟨_, .field hscalar (.intro (.last hname) isBlank_nil isBlank_nil)⟩
  obtain ⟨text, htext⟩ := exists_documentText hlines
  refine ⟨String.ofList text, .intro (Arranges.headers _) (List.Perm.refl []) (List.Perm.refl _) ?_⟩
  rw [String.toList_ofList]
  exact htext

end Settings

end Countoff
