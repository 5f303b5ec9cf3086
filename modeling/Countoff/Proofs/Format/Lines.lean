import Countoff.Format.Lines

/-!
# Lines are read back

A text without line feeds is a line, so texts of which none has one are read back as the lines
that they were written on. Other texts come to several lines each, in order (`read_lines_flatMap`).
-/

namespace Countoff.Lines

/-- A text is read up to its first line feed. -/
theorem read_append {text : List Char} (h : '\n' ∉ text) (rest : List Char) :
    read (text ++ '\n' :: rest) = text :: read rest := by
  induction text with
  | nil => rfl
  | cons c text ih =>
    rw [List.mem_cons, not_or] at h
    rw [List.cons_append, read, if_neg (Ne.symm h.1), ih h.2]

theorem read_lines {texts : List (List Char)} (h : ∀ text ∈ texts, '\n' ∉ text) :
    read (lines texts) = texts := by
  induction texts with
  | nil => rfl
  | cons text texts ih =>
    have hlines : lines (text :: texts) = text ++ '\n' :: lines texts := by
      simp [lines]
    rw [hlines, read_append (h text List.mem_cons_self),
      ih fun other hother => h other (List.mem_cons_of_mem _ hother)]

/-- What stands behind a line feed is read by itself. -/
theorem read_append_newline (text rest : List Char) :
    read (text ++ '\n' :: rest) = read (text ++ ['\n']) ++ read rest := by
  induction text with
  | nil => rfl
  | cons c text ih =>
    by_cases hc : c = '\n'
    · simp [read, hc, ih]
    · have hne : read (text ++ ['\n']) ≠ [] := by
        cases text with
        | nil => simp [read]
        | cons d text =>
          rw [List.cons_append, read]
          split
          · simp
          · split <;> simp
      obtain ⟨line, later, hread⟩ := List.exists_cons_of_ne_nil hne
      simp [read, hc, ih, hread]

theorem read_lines_flatMap (texts : List (List Char)) :
    read (lines texts) = texts.flatMap fun text => read (text ++ ['\n']) := by
  induction texts with
  | nil => rfl
  | cons text texts ih =>
    have hlines : lines (text :: texts) = text ++ '\n' :: lines texts := by
      simp [lines]
    rw [hlines, read_append_newline, ih, List.flatMap_cons]

end Countoff.Lines
