import Countoff.Request

/-!
# Which requests can be met

A request is valid if it has an interval and its path, if any, passes its check
(`validate_eq_ok`); otherwise the interval is blamed first (`validate_eq_error`). Whatever is blamed
is a value that the user gave (`validate_blames`), so an invalid request always ends with the same
exit code.
-/

namespace Countoff

/-- A fault that blames a value which the user gave. -/
def Fault.IsInvalidValue (fault : Fault) : Prop :=
  ∃ field value problem, fault = .invalidValue field value problem

theorem Fault.IsInvalidValue.exitCode {fault : Fault} (h : fault.IsInvalidValue) :
    fault.exitCode = 1 := by
  obtain ⟨field, value, problem, rfl⟩ := h
  rfl

theorem Check.path_blames {field path : String} {fault : Fault}
    (h : Check.path field path = .error fault) : fault.IsInvalidValue := by
  unfold Check.path at h
  split at h
  · cases h
    exact ⟨_, _, _, rfl⟩
  split at h
  · cases h
    exact ⟨_, _, _, rfl⟩
  · cases h

namespace Interval

theorem between_blames {start stop : Int} {ordered : start ≤ stop} {le_start : Int64.minValue.toInt ≤ start}
    {stop_le : stop ≤ Int64.maxValue.toInt} {fault : Fault}
    (h : between start stop ordered le_start stop_le = .error fault) : fault.IsInvalidValue := by
  unfold between at h
  split at h
  · cases h
  · cases h
    exact ⟨_, _, _, rfl⟩

theorem halfOpen_blames {start stop : Int64} {fault : Fault}
    (h : halfOpen start stop = .error fault) : fault.IsInvalidValue := by
  unfold halfOpen at h
  split at h
  · exact between_blames h
  · cases h
    exact ⟨_, _, _, rfl⟩

theorem closed_blames {start stop : Int64} {fault : Fault}
    (h : closed start stop = .error fault) : fault.IsInvalidValue := by
  unfold closed at h
  split at h
  · split at h
    · exact between_blames h
    · cases h
      exact ⟨_, _, _, rfl⟩
  · cases h
    exact ⟨_, _, _, rfl⟩

end Interval

namespace Request

variable {request : Request} {field : String} {fault : Fault}

theorem interval_blames (h : request.interval = .error fault) : fault.IsInvalidValue := by
  unfold interval at h
  split at h
  · exact Interval.closed_blames h
  · exact Interval.halfOpen_blames h

theorem validate_eq_ok :
    request.validate field = .ok () ↔
      (∃ i, request.interval = .ok i) ∧
        ∀ path, request.path = some path → Check.path field path = .ok () := by
  unfold validate
  cases hi : request.interval with
  | error fault => simp [bind, Except.bind]
  | ok i =>
    cases hp : request.path with
    | none => simp [bind, Except.bind, pure, Except.pure]
    | some path => simp [bind, Except.bind]

theorem validate_eq_error :
    request.validate field = .error fault ↔
      request.interval = .error fault ∨
        (∃ i, request.interval = .ok i) ∧
          ∃ path, request.path = some path ∧ Check.path field path = .error fault := by
  unfold validate
  cases hi : request.interval with
  | error fault => simp [bind, Except.bind]
  | ok i =>
    cases hp : request.path with
    | none => simp [bind, Except.bind, pure, Except.pure]
    | some path => simp [bind, Except.bind]

/-- A request that is not valid has a value that the user gave to blame. -/
theorem validate_blames (h : request.validate field = .error fault) : fault.IsInvalidValue := by
  rcases validate_eq_error.mp h with hi | ⟨-, path, -, hpath⟩
  · exact interval_blames hi
  · exact Check.path_blames hpath

end Request

end Countoff
