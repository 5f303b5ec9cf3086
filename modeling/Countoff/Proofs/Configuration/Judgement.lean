import Countoff.Proofs.Configuration
import Countoff.Proofs.Text.Blank

/-!
# How configurations are judged

A configuration is valid, or there is one fault to find with it. Both kinds of configuration are judged
by the same rule (`Judged`), from what they come to: the range first, then the path, which has to hold
something visible and must not hold a NUL. The rule leaves no choice, so validation is that rule and
nothing else (`Configuration.validate_judges`).
-/

namespace Countoff

open CommandLine (RangeOptions)
open Text (IsWhiteSpace trim)

/-! ## Paths -/

namespace Check

variable {field path : String} {fault : Fault}

/-- A path is first trimmed, and refused if nothing is left of it. -/
theorem path_eq (field path : String) :
    Check.path field path =
      if trim path = "" then .error (.invalidValue field path .blankPath)
      else if '\x00' ∈ path.toList then .error (.invalidValue field path .nulInPath)
      else .ok () := by
  have htrim : Text.allBlank path = true ↔ trim path = "" := by
    rw [Text.allBlank_iff, Text.trim_eq_empty_iff]
  simp only [Check.path, htrim, List.contains_iff_mem]

theorem path_of_blank (h : ∀ c ∈ path.toList, IsWhiteSpace c) :
    Check.path field path = .error (.invalidValue field path .blankPath) := by
  rw [path_eq, if_pos (Text.trim_eq_empty_iff.2 h)]

section Visible

variable (h : ∃ c ∈ path.toList, ¬IsWhiteSpace c)
include h

theorem trim_ne_empty : trim path ≠ "" := by
  obtain ⟨c, hc, hvisible⟩ := h
  intro hempty
  exact hvisible (Text.trim_eq_empty_iff.1 hempty c hc)

theorem path_of_nul (hnul : '\x00' ∈ path.toList) :
    Check.path field path = .error (.invalidValue field path .nulInPath) := by
  rw [path_eq, if_neg (trim_ne_empty h), if_pos hnul]

theorem path_of_visible (hnul : '\x00' ∉ path.toList) : Check.path field path = .ok () := by
  rw [path_eq, if_neg (trim_ne_empty h), if_neg hnul]

end Visible

end Check

/-! ## Requests -/

/-- What there is to say of a configuration that comes to a range and a path, if it has one: it is valid,
or it has a fault. The fault of a path tells the path as it was given. -/
inductive Judged (range : Except Fault Interval) (path : Option String) (field : String) :
    Except Fault Unit → Prop where
  | valid {i : Interval} (hrange : range = .ok i)
    (hpath : ∀ name, path = some name →
      (∃ c ∈ name.toList, ¬IsWhiteSpace c) ∧ '\x00' ∉ name.toList) :
    Judged range path field (.ok ())
  /-- The range has a fault, and the path does not matter. -/
  | range {fault : Fault} (hrange : range = .error fault) : Judged range path field (.error fault)
  | blank {i : Interval} {name : String} (hrange : range = .ok i) (hpath : path = some name)
    (hblank : ∀ c ∈ name.toList, IsWhiteSpace c) :
    Judged range path field (.error (.invalidValue field name .blankPath))
  | nul {i : Interval} {name : String} (hrange : range = .ok i) (hpath : path = some name)
    (hvisible : ∃ c ∈ name.toList, ¬IsWhiteSpace c) (hnul : '\x00' ∈ name.toList) :
    Judged range path field (.error (.invalidValue field name .nulInPath))

/-- A range and a path can always be judged. -/
theorem exists_judged (range : Except Fault Interval) (path : Option String) (field : String) :
    ∃ result, Judged range path field result := by
  cases range with
  | error fault => exact ⟨_, .range rfl⟩
  | ok i =>
    cases path with
    | none => exact ⟨_, .valid rfl nofun⟩
    | some name =>
      by_cases hvisible : ∃ c ∈ name.toList, ¬IsWhiteSpace c
      · by_cases hnul : '\x00' ∈ name.toList
        · exact ⟨_, .nul rfl rfl hvisible hnul⟩
        · refine ⟨_, .valid rfl ?_⟩
          rintro _ ⟨⟩
          exact ⟨hvisible, hnul⟩
      · refine ⟨_, .blank rfl rfl ?_⟩
        intro c hc
        by_contra hwhite
        exact hvisible ⟨c, hc, hwhite⟩

namespace Request

variable {request : Request} {field : String} {result : Except Fault Unit}

/-- What can be said of a request is what validation says. -/
theorem validate_of_judged (h : Judged request.interval request.path field result) :
    request.validate field = result := by
  cases h with
  | @valid i hrange hpath =>
    apply validate_eq_ok.2
    refine ⟨⟨i, hrange⟩, ?_⟩
    intro name hname
    obtain ⟨hvisible, hnul⟩ := hpath name hname
    exact Check.path_of_visible hvisible hnul
  | range hrange =>
    apply validate_eq_error.2
    exact .inl hrange
  | @blank i name hrange hpath hblank =>
    apply validate_eq_error.2
    exact .inr ⟨⟨i, hrange⟩, name, hpath, Check.path_of_blank hblank⟩
  | @nul i name hrange hpath hvisible hnul =>
    apply validate_eq_error.2
    exact .inr ⟨⟨i, hrange⟩, name, hpath, Check.path_of_nul hvisible hnul⟩

theorem validate_iff_judged :
    request.validate field = result ↔ Judged request.interval request.path field result := by
  constructor
  · rintro rfl
    obtain ⟨other, hother⟩ := exists_judged request.interval request.path field
    rw [validate_of_judged hother]
    exact hother
  · exact validate_of_judged

end Request

/-- **Validation is exact.** Options and settings are found valid, or at fault, as the rule has it and
not otherwise: a fault of the range comes first, and is the one that the range has by itself, then
comes a path with nothing visible in it, of which trimming leaves nothing, then a NUL in the path. The
fault of a path has the name that the path has in each of them. -/
theorem Configuration.validate_judges :
    (∀ (options : RangeOptions) (result : Except Fault Unit),
      options.validate = result ↔
        Judged options.request.interval options.output "output" result) ∧
      (∀ (settings : Settings) (result : Except Fault Unit),
        settings.validate = result ↔
          Judged settings.request.interval settings.path "output.path" result) ∧
      (∀ path, trim path = "" ↔ ∀ c ∈ path.toList, IsWhiteSpace c) ∧
      ValueProblem.blankPath.text = "Path cannot be empty" ∧
      ValueProblem.nulInPath.text = "Path contains null bytes" := by
  refine ⟨?_, ?_, ?_, rfl, rfl⟩
  · intro options result
    exact Request.validate_iff_judged
  · intro settings result
    exact Request.validate_iff_judged
  · intro path
    exact Text.trim_eq_empty_iff

/-- The no-break space, the line separator and the ideographic space are blank. The zero-width space is
visible here, and so is a NUL, which is refused for what it is. -/
example : Check.path "output" "\u00a0\u2028\u3000" =
      .error (.invalidValue "output" "\u00a0\u2028\u3000" .blankPath) ∧
    Check.path "output" "\u200b" = .ok () ∧
    Check.path "output" "\x00" = .error (.invalidValue "output" "\x00" .nulInPath) := by
  decide

end Countoff
