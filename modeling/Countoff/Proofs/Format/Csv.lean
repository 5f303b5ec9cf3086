import Countoff.Format
import Countoff.Proofs.Text.Bytes
import Std.Data.String.ToInt

/-!
# Tables are read back

The reader of tables undoes the writer, whatever stands in the fields. A field is read up to the
comma or the line feed behind it, and there the reader stands as if the field had been without
quotes (`readFrom_field`); from this the fields of a record and the records of a table follow by
induction (`readFrom_fields`, `read_table`).

A listing gets its header from two places, which the writer keeps apart: `tableChars_eq` shows that
it stands exactly once in front of the rows, however many there are.
-/

namespace Countoff

namespace Csv

/-! ## Fields -/

/-- Characters put in front of a first field one by one, the last of them first. -/
theorem foldr_pushChar (f g : Field) (fs : Record) (records : List Record) :
    f.foldr pushChar ((g :: fs) :: records) = ((f ++ g) :: fs) :: records := by
  induction f with
  | nil => rfl
  | cons c f ih => rw [List.foldr_cons, ih]; rfl

/-- A text at whose beginning a field ends. -/
inductive Breaks : List Char → Prop
  | comma (rest : List Char) : Breaks (',' :: rest)
  | newline (rest : List Char) : Breaks ('\n' :: rest)

theorem readFrom_comma {stand : Stand} (h : stand ≠ .quoted) (rest : List Char) :
    readFrom stand (',' :: rest) = (readFrom .field rest).map pushField := by
  cases stand with
  | quoted => exact absurd rfl h
  | _ => rfl

theorem readFrom_newline {stand : Stand} (h : stand ≠ .quoted) (rest : List Char) :
    readFrom stand ('\n' :: rest) = (readFrom .record rest).map ([[]] :: ·) := by
  cases stand with
  | quoted => exact absurd rfl h
  | _ => rfl

/-- Where a field ends, it does not matter how it was written. -/
theorem readFrom_of_breaks {stand : Stand} (h : stand ≠ .quoted) {rest : List Char}
    (hb : Breaks rest) : readFrom stand rest = readFrom .bare rest := by
  cases hb with
  | comma rest => rw [readFrom_comma h, readFrom_comma (by decide)]
  | newline rest => rw [readFrom_newline h, readFrom_newline (by decide)]

/-- A character that needs no quotes belongs to the field that it begins or continues. -/
theorem readFrom_plain {stand : Stand} (h : stand = .record ∨ stand = .field ∨ stand = .bare)
    {c : Char} (hc : isSpecial c = false) (rest : List Char) :
    readFrom stand (c :: rest) = (readFrom .bare rest).map (pushChar c) := by
  simp only [isSpecial, Bool.or_eq_false_iff, decide_eq_false_iff_not] at hc
  obtain ⟨⟨⟨hcomma, hquote⟩, hlf⟩, hcr⟩ := hc
  rcases h with rfl | rfl | rfl <;> simp [readFrom, hquote, hcr]

/-- A field without quotes is read up to its end. -/
theorem readFrom_bare {f : Field} (hf : f.any isSpecial = false) (rest : List Char) :
    readFrom .bare (f ++ rest) = (readFrom .bare rest).map fun records => f.foldr pushChar records := by
  induction f with
  | nil => simp
  | cons c f ih =>
    rw [List.any_cons, Bool.or_eq_false_iff] at hf
    rw [List.cons_append, readFrom_plain (by simp) hf.1, ih hf.2, Option.map_map]
    rfl

/-- A quoted field is read up to its closing quote, which is followed by no other. -/
theorem readFrom_quoted (f : Field) (rest : List Char) :
    readFrom .quoted (doubled f ++ '"' :: rest) =
      (readFrom .quote rest).map fun records => f.foldr pushChar records := by
  induction f with
  | nil => simp [doubled, readFrom]
  | cons c f ih =>
    by_cases hc : c = '"'
    · subst hc
      have hd : doubled ('"' :: f) = '"' :: '"' :: doubled f := rfl
      rw [hd, List.cons_append, List.cons_append, readFrom, if_pos rfl, readFrom, ih,
        Option.map_map]
      rfl
    · have hd : doubled (c :: f) = c :: doubled f := by simp [doubled, hc]
      rw [hd, List.cons_append, readFrom, if_neg hc, ih, Option.map_map]
      rfl

/-- A field is read up to its end, with quotes or without. -/
theorem readFrom_field {stand : Stand} (h : stand = .record ∨ stand = .field) (f : Field)
    {rest : List Char} (hb : Breaks rest) :
    readFrom stand (field f ++ rest) =
      (readFrom .bare rest).map fun records => f.foldr pushChar records := by
  unfold field
  split
  · have hquote : readFrom stand ('"' :: (doubled f ++ '"' :: rest)) =
        readFrom .quoted (doubled f ++ '"' :: rest) := by
      rcases h with rfl | rfl <;> simp [readFrom]
    rw [List.append_assoc, List.cons_append, List.singleton_append, hquote, readFrom_quoted,
      readFrom_of_breaks (by decide) hb]
  · next hf =>
    rw [Bool.not_eq_true] at hf
    cases f with
    | nil =>
      rw [List.nil_append, readFrom_of_breaks (by rcases h with rfl | rfl <;> decide) hb]
      simp
    | cons c f =>
      rw [List.any_cons, Bool.or_eq_false_iff] at hf
      have hs : stand = .record ∨ stand = .field ∨ stand = .bare := h.imp_right .inl
      rw [List.cons_append, readFrom_plain hs hf.1, readFrom_bare hf.2, Option.map_map]
      rfl

/-! ## Records -/

/-- A record is read up to the line feed that ends it. -/
theorem readFrom_fields : ∀ {record : Record}, record ≠ [] → ∀ {stand : Stand},
    stand = .record ∨ stand = .field → ∀ rest : List Char,
      readFrom stand (fields record ++ '\n' :: rest) =
        (readFrom .record rest).map (record :: ·)
  | [], h, _, _, _ => absurd rfl h
  | [f], _, stand, hs, rest => by
    show readFrom stand (field f ++ '\n' :: rest) = _
    rw [readFrom_field hs f (.newline rest), readFrom_newline (by decide), Option.map_map]
    congr 1
    funext records
    simp [foldr_pushChar]
  | f :: g :: fs, _, stand, hs, rest => by
    have hstep : fields (f :: g :: fs) ++ '\n' :: rest =
        field f ++ ',' :: (fields (g :: fs) ++ '\n' :: rest) := by
      simp [fields]
    rw [hstep, readFrom_field hs f (.comma _), readFrom_comma (by decide),
      readFrom_fields (List.cons_ne_nil g fs) (.inr rfl), Option.map_map, Option.map_map]
    congr 1
    funext records
    simp [pushField, foldr_pushChar]

@[simp] theorem table_cons (record : Record) (records : List Record) :
    table (record :: records) = line record ++ table records :=
  List.flatMap_cons

/-- **The reader undoes the writer** on every table whose records have a field at least. -/
theorem read_table {records : List Record} (h : ∀ record ∈ records, record ≠ []) :
    read (table records) = some records := by
  unfold read
  induction records with
  | nil => rfl
  | cons record records ih =>
    have hrecord := h record List.mem_cons_self
    have hrest := ih fun other hother => h other (List.mem_cons_of_mem _ hother)
    rw [table_cons, line, List.append_assoc, List.singleton_append,
      readFrom_fields hrecord (.inl rfl), hrest]
    rfl

/-! ## The writer -/

namespace Writer

theorem text_record (writer : Writer) (record : Record) :
    (writer.record record).text = writer.text ++ line record := by
  simp [text, Writer.record]

/-- A writer whose heading stands writes rows and nothing else. -/
theorem text_foldl_row_of_headed (names : Record) (rows : List Record) {writer : Writer}
    (h : writer.headed = true) :
    (rows.foldl (row names) writer).text = writer.text ++ table rows := by
  induction rows generalizing writer with
  | nil => simp [table]
  | cons fields rows ih =>
    have hrow : row names writer fields = writer.record fields := by simp [row, h]
    have hrecord : (writer.record fields).headed = true := h
    rw [List.foldl_cons, hrow, ih hrecord, text_record, table_cons, List.append_assoc]

/-- A writer whose heading is still to come writes it in front of the first row. -/
theorem text_foldl_row (names fields : Record) (rows : List Record) {writer : Writer}
    (h : writer.headed = false) :
    ((fields :: rows).foldl (row names) writer).text =
      writer.text ++ table (names :: fields :: rows) := by
  have hrow : row names writer fields = { (writer.record names).record fields with headed := true } :=
    by simp [row, h]
  have htext : (row names writer fields).text = writer.text ++ line names ++ line fields := by
    rw [hrow, ← text_record, ← text_record]
    rfl
  rw [List.foldl_cons, text_foldl_row_of_headed names rows (by rw [hrow]), htext, table_cons,
    table_cons, List.append_assoc, List.append_assoc]

end Writer

end Csv

namespace Listing

open Csv

/-- The header of a listing stands once, in front of its rows. -/
theorem tableChars_eq (listing : Listing) :
    listing.tableChars = table (header :: listing.rows) := by
  unfold tableChars
  cases listing with
  | nil => simp [rows, Writer.record, Writer.text, table]
  | cons entry listing => exact Writer.text_foldl_row header _ _ rfl

/-- The text of a table: the header, and the rows behind it. -/
theorem render_csv (listing : Listing) :
    listing.render .csv = "number,label\n" ++ String.ofList (table listing.rows) := by
  have hheader : line header = "number,label\n".toList := by decide
  rw [render, renderChars, tableChars_eq, table_cons, hheader, String.ofList_append,
    String.ofList_toList]

/-- A listing written as a table is read back as its header and its rows. -/
theorem read_tableChars (listing : Listing) :
    Csv.read listing.tableChars = some (header :: listing.rows) := by
  rw [tableChars_eq]
  apply read_table
  intro record hrecord
  rcases List.mem_cons.1 hrecord with rfl | hrecord
  · exact List.cons_ne_nil _ _
  · obtain ⟨entry, -, rfl⟩ := List.mem_map.1 hrecord
    exact List.cons_ne_nil _ _

/-- The rows of a listing say what the listing says. -/
theorem rows_injective : Function.Injective rows := by
  intro xs ys h
  refine (List.map_inj_right ?_).1 h
  rintro ⟨m, s⟩ ⟨n, t⟩ he
  simp only [List.cons.injEq, and_true, String.toList_inj] at he
  obtain ⟨hnumber, hlabel⟩ := he
  rw [Int.repr_injective hnumber, hlabel]

/-- **A listing written as a table is read back.** A reader of the bytes finds the header, and under
it a record for each entry in order, with the number and the label; so different listings are
written as different bytes. -/
theorem csv_read_back :
    (∀ listing : Listing, Text.readBytes Csv.read (listing.render .csv).toUTF8 =
      some (["number".toList, "label".toList] ::
        listing.map fun entry => [(toString entry.number).toList, entry.label.toList])) ∧
    Function.Injective fun listing : Listing => (listing.render .csv).toUTF8 := by
  have hread (listing : Listing) : Text.readBytes Csv.read (listing.render .csv).toUTF8 =
      some (header :: listing.rows) := by
    rw [render, Text.readBytes_toUTF8]
    exact read_tableChars listing
  refine ⟨hread, fun xs ys h => ?_⟩
  have hrows : some (header :: xs.rows) = some (header :: ys.rows) := by
    rw [← hread xs, ← hread ys]
    exact congrArg _ h
  exact rows_injective (List.cons.inj (Option.some.inj hrows)).2

end Listing

end Countoff
