import Countoff.CommandLine.Grammar

/-!
# What the words for a misuse show

The words for a misuse repeat what the user gave, without what would steer a terminal: whichever
reader takes it out, no control is shown but the blank ones (`Text.isBlankControl_of_shown`). The
readers part only where a blank control stands in an escape sequence. So if the user gave no
controls, a misuse is worded in one way, and repeats what was given as it is
(`Misuse.notice_eq_text`).
-/

namespace Countoff

namespace Text

theorem isAsciiControl_of_isBlankControl {c : Char} (h : isBlankControl c = true) :
    isAsciiControl c = true := by
  simp only [isBlankControl, Bool.or_eq_true, decide_eq_true_eq] at h
  rcases h with ((rfl | rfl) | rfl) | rfl <;> rfl

/-- Of the controls only the blank ones are shown, wherever the reader stands. -/
theorem isBlankControl_of_shown {resume shown : Bool} {stand : Terminal} {cs : List Char} {c : Char}
    (hmem : c ∈ plainFrom resume stand shown cs) (hcontrol : isAsciiControl c = true) :
    isBlankControl c = true := by
  induction cs generalizing stand shown with
  | nil => cases hmem
  | cons d rest ih =>
    unfold plainFrom at hmem
    split at hmem
    · next hblank =>
      obtain rfl | hrest := List.mem_cons.1 hmem
      · exact (Bool.and_eq_true_iff.1 hblank).1
      · exact ih hrest
    split at hmem
    · exact ih hmem
    · next hvisible =>
      split at hmem
      · obtain rfl | hrest := List.mem_cons.1 hmem
        · exact absurd hcontrol hvisible
        · exact ih hrest
      · exact ih hmem

/-- A text without controls is shown as it is. -/
theorem plainFrom_of_visible (resume shown : Bool) {cs : List Char}
    (h : ∀ c ∈ cs, isAsciiControl c = false) : plainFrom resume .ground shown cs = cs := by
  induction cs generalizing shown with
  | nil => rfl
  | cons c rest ih =>
    have hvisible : isAsciiControl c = false := h c List.mem_cons_self
    have hblank : isBlankControl c = false := by
      rw [Bool.eq_false_iff] at hvisible ⊢
      exact mt isAsciiControl_of_isBlankControl hvisible
    have hrest := ih true fun d hd => h d (List.mem_cons_of_mem _ hd)
    simp only [plainFrom, hblank, hvisible, Bool.false_and, Bool.false_eq_true, if_false,
      Bool.or_true, decide_true, if_true, ite_self, hrest]

end Text

namespace CommandLine.Misuse

/-- What the user gave that the words for a misuse repeat. -/
def given : Misuse → Option String
  | .unexpectedArgument argument => some argument
  | .invalidValue value _ | .invalidNumeral value _ _ | .unexpectedValue value _ => some value
  | .missingValue _ | .repeated _ => none

theorem textBy_congr {misuse : Misuse} {plain plain' : String → String}
    (h : ∀ s, misuse.given = some s → plain s = plain' s) :
    misuse.textBy plain = misuse.textBy plain' := by
  unfold textBy
  cases misuse with
  | missingValue option => rfl
  | repeated option => rfl
  | _ =>
    dsimp only
    rw [h _ rfl]

/-- Where the user gave no controls, a misuse is worded in one way, with what was given as it is. -/
theorem notice_eq_text {misuse : Misuse}
    (h : ∀ s, misuse.given = some s → ∀ c ∈ s.toList, Text.isAsciiControl c = false) :
    misuse.notice = misuse.text ∧ misuse.text = misuse.textBy id := by
  have hgiven (resume : Bool) (s : String) (hs : misuse.given = some s) :
      String.ofList (Text.plainFrom resume .ground false s.toList) = s := by
    rw [Text.plainFrom_of_visible resume false (h s hs), String.ofList_toList]
  have hnotice : misuse.notice = misuse.textBy id := textBy_congr (hgiven true)
  have htext : misuse.text = misuse.textBy id := textBy_congr (hgiven false)
  exact ⟨hnotice.trans htext.symm, htext⟩

end CommandLine.Misuse

end Countoff
