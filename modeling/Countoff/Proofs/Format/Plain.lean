import Countoff.Proofs.Format.Csv
import Countoff.Proofs.Format.Json
import Countoff.Proofs.Format.Lines
import Countoff.Proofs.Label
import Mathlib.Data.List.Basic

/-!
# Plain listings

What integers are called, and their numerals, are words (`mem_callOut`, `mem_toString`): letters,
digits and the minus sign. No writer escapes a word or puts it in quotes, so a listing that calls out
integers is written by putting words, commas, quotes and line feeds one behind the other
(`render_ofNumbers`). Whoever knows that can read it without knowing the formats: the lines of a text,
and what stands behind the first comma of each, are enough (`formats_plain`).
-/

namespace Countoff

/-! ## Words -/

/-- No control character is in a word. -/
theorem IsWordChar.space_le {c : Char} (h : IsWordChar c) : 0x20 ≤ c.toNat := by
  have hcontrol : ∀ n < 0x20, ¬IsWordChar (Char.ofNat n) := by decide
  by_contra hlow
  apply hcontrol c.toNat (not_le.1 hlow)
  rwa [Char.ofNat_toNat]

/-- A word: letters, digits and minus signs. -/
def IsWord (cs : List Char) : Prop :=
  ∀ c ∈ cs, IsWordChar c

theorem isWord_callOut (n : Int) : IsWord (callOut n).toList :=
  fun _ => mem_callOut

theorem isWord_toString (n : Int) : IsWord (toString n).toList :=
  fun _ => mem_toString

theorem IsWord.not_mem {cs : List Char} (h : IsWord cs) {d : Char} (hd : ¬IsWordChar d) : d ∉ cs :=
  fun hmem => hd (h d hmem)

theorem IsWordChar.escape_eq {c : Char} (h : IsWordChar c) : Json.escape c = [c] := by
  unfold Json.escape
  split
  case h_8 =>
    have hspace := h.space_le
    rw [if_neg (by omega)]
  all_goals exact absurd h (by decide)

theorem IsWordChar.isSpecial_eq {c : Char} (h : IsWordChar c) : Csv.isSpecial c = false := by
  have hcomma : c ≠ ',' := h.ne (by decide)
  have hquote : c ≠ '"' := h.ne (by decide)
  have hnewline : c ≠ '\n' := h.ne (by decide)
  have hreturn : c ≠ '\r' := h.ne (by decide)
  simp [Csv.isSpecial, hcomma, hquote, hnewline, hreturn]

/-! ## Words in every format -/

/-- A word in JSON stands between quotes as it is. -/
theorem IsWord.string_eq {cs : List Char} (h : IsWord cs) : Json.string cs = '"' :: cs ++ ['"'] := by
  have hescape : cs.flatMap Json.escape = cs := by
    rw [List.flatMap_congr fun c hc => (h c hc).escape_eq]
    exact List.flatMap_singleton' cs
  rw [Json.string, hescape]

/-- A word in a table stands without quotes. -/
theorem IsWord.field_eq {cs : List Char} (h : IsWord cs) : Csv.field cs = cs := by
  have hplain : cs.any Csv.isSpecial = false := by
    rw [List.any_eq_false]
    intro c hc
    rw [(h c hc).isSpecial_eq]
    exact Bool.false_ne_true
  rw [Csv.field, hplain]
  rfl

namespace Listing

/-- A listing that calls out integers, put together from words. -/
def plain (numbers : List Int) : Format → String
  | .lines => String.join (numbers.map fun n => callOut n ++ "\n")
  | .json => "[" ++ ",".intercalate (numbers.map fun n => "\"" ++ callOut n ++ "\"") ++ "]\n"
  | .csv => "number,label\n" ++
    String.join (numbers.map fun n => toString n ++ "," ++ callOut n ++ "\n")

theorem render_lines_ofNumbers (numbers : List Int) :
    (ofNumbers numbers).render .lines = plain numbers .lines := by
  rw [← String.toList_inj, render, String.toList_ofList, plain, String.toList_join, renderChars,
    Lines.lines, labelChars, ofNumbers]
  simp only [List.flatMap_map, List.map_map, String.toList_append, Function.comp_apply]
  rfl

theorem render_json_ofNumbers (numbers : List Int) :
    (ofNumbers numbers).render .json = plain numbers .json := by
  have hstrings : (ofNumbers numbers).labelChars.map Json.string =
      (numbers.map fun n => "\"" ++ callOut n ++ "\"").map String.toList := by
    simp only [labelChars, ofNumbers, List.map_map]
    apply List.map_congr_left
    intro n _
    simp only [Function.comp_apply, (isWord_callOut n).string_eq, String.toList_append]
    rfl
  rw [← String.toList_inj, render, String.toList_ofList, plain, renderChars, Json.array,
    Json.elements_eq, hstrings, String.toList_append, String.toList_append,
    String.toList_intercalate]
  simp

theorem render_csv_ofNumbers (numbers : List Int) :
    (ofNumbers numbers).render .csv = plain numbers .csv := by
  have hrow (n : Int) : Csv.line [(toString n).toList, (callOut n).toList] =
      (toString n ++ "," ++ callOut n ++ "\n").toList := by
    have hfields : Csv.fields [(toString n).toList, (callOut n).toList] =
        Csv.field (toString n).toList ++ ',' :: Csv.field (callOut n).toList := rfl
    rw [Csv.line, hfields, (isWord_toString n).field_eq, (isWord_callOut n).field_eq]
    simp
  have hrows : String.ofList (Csv.table (ofNumbers numbers).rows) =
      String.join (numbers.map fun n => toString n ++ "," ++ callOut n ++ "\n") := by
    rw [← String.toList_inj, String.toList_ofList, String.toList_join]
    simp only [Csv.table, rows, ofNumbers, List.map_map, List.flatMap_map, Function.comp_apply,
      hrow]
  rw [render_csv, plain, hrows]

/-- No writer has anything to do but to put words together. -/
theorem render_ofNumbers (numbers : List Int) (format : Format) :
    (ofNumbers numbers).render format = plain numbers format := by
  cases format with
  | lines => exact render_lines_ofNumbers numbers
  | json => exact render_json_ofNumbers numbers
  | csv => exact render_csv_ofNumbers numbers

end Listing

/-! ## Reading without knowing the formats -/

/-- What stands behind the first comma of a row. -/
def Csv.behindComma (row : List Char) : List Char :=
  (row.dropWhile fun c => c != ',').tail

/-- The labels of a table of words: what stands behind the first comma of every line but the
header. -/
def Csv.labels (cs : List Char) : List (List Char) :=
  (Lines.read cs).tail.map behindComma

theorem Csv.behindComma_append {word : List Char} (h : IsWord word) (rest : List Char) :
    behindComma (word ++ ',' :: rest) = rest := by
  have hdrop : (word ++ ',' :: rest).dropWhile (fun c => c != ',') = ',' :: rest := by
    rw [List.dropWhile_append_of_pos]
    · rfl
    · intro c hc
      simpa using (h c hc).ne (by decide)
  rw [behindComma, hdrop, List.tail_cons]

namespace Listing

theorem labelChars_eq (listing : Listing) :
    listing.labelChars = listing.labels.map String.toList := by
  rw [labelChars, labels, List.map_map]
  rfl

theorem isWord_of_mem_labelChars {numbers : List Int} {label : List Char}
    (h : label ∈ (ofNumbers numbers).labelChars) : IsWord label := by
  simp only [labelChars, ofNumbers, List.map_map, List.mem_map, Function.comp_apply] at h
  obtain ⟨n, -, rfl⟩ := h
  exact isWord_callOut n

theorem readBytes_lines (numbers : List Int) :
    Text.readBytes (some ∘ Lines.read) ((ofNumbers numbers).render .lines).toUTF8 =
      some (ofNumbers numbers).labelChars := by
  rw [render, Text.readBytes_toUTF8]
  apply congrArg some
  apply Lines.read_lines
  intro label hlabel
  exact (isWord_of_mem_labelChars hlabel).not_mem (by decide)

theorem readBytes_json (listing : Listing) :
    Text.readBytes Json.readArray (listing.render .json).toUTF8 = some listing.labelChars := by
  rw [render, Text.readBytes_toUTF8]
  exact Json.readArray_array listing.labelChars (by decide)

/-- The lines of a table of integers and what they are called. -/
theorem read_plain_csv (numbers : List Int) :
    Lines.read (plain numbers .csv).toList = "number,label".toList ::
      numbers.map fun n => (toString n).toList ++ ',' :: (callOut n).toList := by
  have hlines : (plain numbers .csv).toList = Lines.lines ("number,label".toList ::
      numbers.map fun n => (toString n).toList ++ ',' :: (callOut n).toList) := by
    rw [plain, String.toList_append, String.toList_join, Lines.lines, List.flatMap_cons]
    simp [List.flatMap_map]
  rw [hlines]
  apply Lines.read_lines
  intro line hline
  rcases List.mem_cons.1 hline with rfl | hline
  · decide
  · obtain ⟨n, -, rfl⟩ := List.mem_map.1 hline
    have hnumber : '\n' ∉ (toString n).toList := (isWord_toString n).not_mem (by decide)
    have hlabel : '\n' ∉ (callOut n).toList := (isWord_callOut n).not_mem (by decide)
    rw [List.mem_append, List.mem_cons, not_or, not_or]
    exact ⟨hnumber, by decide, hlabel⟩

theorem readBytes_csv (numbers : List Int) :
    Text.readBytes (some ∘ Csv.labels) ((ofNumbers numbers).render .csv).toUTF8 =
      some (ofNumbers numbers).labelChars := by
  rw [render_ofNumbers, ← String.ofList_toList (s := plain numbers .csv), Text.readBytes_toUTF8]
  apply congrArg some
  rw [Csv.labels, read_plain_csv, List.tail_cons, labelChars, ofNumbers, List.map_map,
    List.map_map]
  apply List.map_congr_left
  intro n _
  exact Csv.behindComma_append (isWord_toString n) _

/-- What a writer leaves as it is: the numeral and the label of an integer. -/
structure Unmarked (n : Int) : Prop where
  string : Json.string (callOut n).toList = '"' :: (callOut n).toList ++ ['"']
  label : Csv.field (callOut n).toList = (callOut n).toList
  number : Csv.field (toString n).toList = (toString n).toList

/-- **Called-out integers need no encoder.** Their numerals and labels are never escaped or quoted,
and every format puts them together from plain texts. The lines of one text, the strings of another
and what stands behind the first commas of the third are therefore one and the same list, the labels
of the integers, as many as there are integers. -/
theorem formats_plain (numbers : List Int) :
    (∀ n ∈ numbers, Unmarked n) ∧
      (∀ format, (ofNumbers numbers).render format = plain numbers format) ∧
      let bytes (format : Format) := ((ofNumbers numbers).render format).toUTF8
      let labels := (ofNumbers numbers).labels
      Text.readBytes (some ∘ Lines.read) (bytes .lines) = some (labels.map String.toList) ∧
        Text.readBytes Json.readArray (bytes .json) = some (labels.map String.toList) ∧
        Text.readBytes (some ∘ Csv.labels) (bytes .csv) = some (labels.map String.toList) ∧
        labels.length = numbers.length := by
  refine ⟨?_, render_ofNumbers numbers, ?_⟩
  · intro n _
    exact ⟨(isWord_callOut n).string_eq, (isWord_callOut n).field_eq,
      (isWord_toString n).field_eq⟩
  · intro bytes labels
    have hlabels : (ofNumbers numbers).labelChars = labels.map String.toList := labelChars_eq _
    rw [← hlabels]
    refine ⟨readBytes_lines numbers, readBytes_json _, readBytes_csv numbers, ?_⟩
    rw [length_labels, length_ofNumbers]

end Listing

end Countoff
