import Countoff.Log.Filter

/-!
# What a filter lets through

The directive that decides about an event is one of those that are about it, and there is one if any
is about it (`deciding?_eq_some`, `deciding?_eq_none`). So an event passes if something is about it
and no directive stops it (`admits_of_forall`). The filter of verbose output lets through what the
terser one does (`admits_standard`).
-/

namespace Countoff.Log.Filter

variable {filter : Filter} {event : Event} {directive : Directive}

/-- The directive that decides, of the one that did so far and the next. -/
def prefer (best : Option Directive) (directive : Directive) : Option Directive :=
  match best with
  | some best => if specificity best ≤ specificity directive then some directive else some best
  | none => some directive

theorem deciding?_eq (filter : Filter) (event : Event) :
    filter.deciding? event = (filter.directives.filter (isAbout · event)).foldl prefer none :=
  rfl

theorem prefer_cases (best : Option Directive) (directive : Directive) :
    prefer best directive = some directive ∨ ∃ other, best = some other ∧
      prefer best directive = some other := by
  unfold prefer
  split
  · next other =>
    split
    · exact .inl rfl
    · exact .inr ⟨other, rfl, rfl⟩
  · exact .inl rfl

theorem foldl_prefer {directives : List Directive} {best : Option Directive} :
    (∀ chosen, directives.foldl prefer best = some chosen →
      chosen ∈ directives ∨ best = some chosen) ∧
      (directives.foldl prefer best = none → directives = [] ∧ best = none) := by
  induction directives generalizing best with
  | nil => exact ⟨fun chosen h => .inr h, fun h => ⟨rfl, h⟩⟩
  | cons directive directives ih =>
    obtain ⟨hsome, hnone⟩ := @ih (prefer best directive)
    rw [List.foldl_cons]
    refine ⟨fun chosen h => ?_, fun h => ?_⟩
    · obtain hmem | hbest := hsome chosen h
      · exact .inl (List.mem_cons_of_mem _ hmem)
      · obtain hnext | ⟨other, hother, hkept⟩ := prefer_cases best directive
        · rw [hnext, Option.some.injEq] at hbest
          exact .inl (hbest ▸ List.mem_cons_self)
        · rw [hkept] at hbest
          exact .inr (hother.trans hbest)
    · obtain hnext | ⟨other, hother, hkept⟩ := prefer_cases best directive
      · exact absurd (hnone h).2 (by simp [hnext])
      · exact absurd (hnone h).2 (by simp [hkept])

theorem deciding?_eq_some (h : filter.deciding? event = some directive) :
    directive ∈ filter.directives ∧ isAbout directive event = true := by
  rw [deciding?_eq] at h
  obtain hmem | hnone := foldl_prefer.1 directive h
  · exact List.mem_filter.1 hmem
  · cases hnone

theorem deciding?_eq_none (h : filter.deciding? event = none) :
    ∀ directive ∈ filter.directives, isAbout directive event = false := by
  rw [deciding?_eq] at h
  have hnil := (foldl_prefer.2 h).1
  rw [List.filter_eq_nil_iff] at hnil
  intro directive hmem
  simpa using hnil directive hmem

/-- An event passes if some directive is about it and none is too terse for it. -/
theorem admits_of_forall (hsome : ∃ directive ∈ filter.directives, isAbout directive event = true)
    (h : ∀ directive ∈ filter.directives, event.level.rank ≤ directive.verbosity) :
    filter.admits event = true := by
  unfold admits
  split
  · next directive hdeciding =>
    exact decide_eq_true (h directive (deciding?_eq_some hdeciding).1)
  · next hdeciding =>
    obtain ⟨directive, hmem, habout⟩ := hsome
    rw [deciding?_eq_none hdeciding directive hmem] at habout
    cases habout

/-! ## The filters of programs that were given none -/

theorem admits_standard_false (event : Event) :
    (standard false).admits event = decide (event.level.rank ≤ Level.warn.rank) :=
  rfl

/-- Whatever is logged in any case is logged with verbose output, wherever it comes from. -/
theorem admits_standard (h : (standard false).admits event = true) :
    (standard true).admits event = true := by
  rw [admits_standard_false, decide_eq_true_eq] at h
  -- one of its two directives is for every target, and neither is terser
  refine admits_of_forall ⟨⟨none, none, Level.info.rank⟩, by simp [standard], rfl⟩ ?_
  intro directive hmem
  simp only [standard, if_true, List.mem_cons, List.not_mem_nil, or_false] at hmem
  obtain rfl | rfl := hmem
  · exact Nat.le_trans h (by decide)
  · exact Nat.le_trans h (by decide)

end Countoff.Log.Filter
