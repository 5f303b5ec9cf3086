import Countoff.Text.Blank
import Mathlib.Data.List.DropRight

/-!
# Texts without a visible character

Blank characters are told by ranges of code points. Here they stand one by one (`isBlank_iff`), and a
text is blank if and only if nothing is left of it once both of its ends are trimmed
(`trim_eq_empty_iff`).
-/

namespace Countoff.Text

/-- The code points with the property White_Space, one by one. -/
def whiteSpace : List Nat :=
  [0x09, 0x0a, 0x0b, 0x0c, 0x0d, 0x20, 0x85, 0xa0, 0x1680, 0x2000, 0x2001, 0x2002, 0x2003, 0x2004,
    0x2005, 0x2006, 0x2007, 0x2008, 0x2009, 0x200a, 0x2028, 0x2029, 0x202f, 0x205f, 0x3000]

def IsWhiteSpace (c : Char) : Prop :=
  c.toNat ∈ whiteSpace

theorem isBlank_iff {c : Char} : isBlank c = true ↔ IsWhiteSpace c := by
  simp only [isBlank, blankRanges, List.any_cons, List.any_nil, Bool.or_false, Bool.or_eq_true,
    Bool.and_eq_true, decide_eq_true_eq, IsWhiteSpace, whiteSpace, List.mem_cons, List.not_mem_nil,
    or_false]
  omega

/-- A text without the blank characters at either end. -/
def trim (text : String) : String :=
  String.ofList ((text.toList.dropWhile isBlank).rdropWhile isBlank)

theorem allBlank_iff {text : String} :
    allBlank text = true ↔ ∀ c ∈ text.toList, IsWhiteSpace c := by
  simp only [allBlank, List.all_eq_true, isBlank_iff]

/-- Trimming leaves nothing of a blank text, and something of any other. -/
theorem trim_eq_empty_iff {text : String} :
    trim text = "" ↔ ∀ c ∈ text.toList, IsWhiteSpace c := by
  rw [trim, String.ofList_eq_empty_iff, List.rdropWhile_eq_nil_iff, ← allBlank_iff, allBlank,
    List.all_eq_true]
  constructor
  · intro h c hc
    -- what is dropped in front is blank, and so is all that is left
    rw [← List.takeWhile_append_dropWhile (p := isBlank) (l := text.toList), List.mem_append] at hc
    rcases hc with hc | hc
    · exact List.mem_takeWhile_imp hc
    · exact h c hc
  · intro h
    rw [List.dropWhile_eq_nil_iff.2 h]
    exact nofun

end Countoff.Text
