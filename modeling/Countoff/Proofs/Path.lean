import Countoff.Path

/-!
# Segments of paths

Joining segments by slashes and dividing the result again gives the segments back
(`segments_join`), so what the parent of a path consists of can be told: of the first segments of
the path (`segments_parent?`). Making the directories above a path tries no other paths than those
above it, one above the other; whatever holds around each attempt holds around all of them
(`provideAll_related`), and what is answered is what one of them has answered
(`provideAll_answers`).
-/

namespace Countoff

/-- Of two programs in a row, each leads to a state that is related to the one it began in, and so
do both. -/
theorem bind_related {σ : Type} {R : σ → σ → Prop}
    (trans : ∀ {s t u}, R s t → R t u → R s u) {α β : Type} {x : StateM σ α} {f : α → StateM σ β}
    (hx : ∀ s, R s (x s).2) (hf : ∀ a s, R s (f a s).2) (s : σ) : R s ((x >>= f) s).2 :=
  trans (hx s) (hf _ _)

namespace Path

/-! ## Segments -/

theorem segments_ne_nil (path : List Char) : segments path ≠ [] := by
  cases path with
  | nil => simp [segments]
  | cons c rest =>
    unfold segments
    split
    · simp
    · split <;> simp

theorem segments_slash (rest : List Char) : segments ('/' :: rest) = [] :: segments rest := by
  rw [segments]
  split
  · next h => exact absurd h (segments_ne_nil rest)
  · next segment later h => simp [h]

theorem segments_cons {c : Char} (hc : c ≠ '/') {rest segment : List Char}
    {later : List (List Char)} (h : segments rest = segment :: later) :
    segments (c :: rest) = (c :: segment) :: later := by
  rw [segments, h]
  exact if_neg hc

theorem slash_not_mem_segment {path segment : List Char} (h : segment ∈ segments path) :
    '/' ∉ segment := by
  induction path generalizing segment with
  | nil =>
    rw [segments, List.mem_singleton] at h
    subst h
    exact List.not_mem_nil
  | cons c rest ih =>
    obtain ⟨first, later, hrest⟩ := List.exists_cons_of_ne_nil (segments_ne_nil rest)
    by_cases hc : c = '/'
    · subst hc
      rw [segments_slash, List.mem_cons] at h
      obtain rfl | h := h
      · exact List.not_mem_nil
      · exact ih h
    · rw [segments_cons hc hrest, List.mem_cons] at h
      rw [hrest] at ih
      obtain rfl | h := h
      · simpa [Ne.symm hc] using ih List.mem_cons_self
      · exact ih (List.mem_cons_of_mem _ h)

/-- The segments of a path hold its characters, but for the slashes. -/
theorem exists_mem_segments {c : Char} (hc : c ≠ '/') {path : List Char} :
    (∃ segment ∈ segments path, c ∈ segment) ↔ c ∈ path := by
  induction path with
  | nil => simp [segments]
  | cons first rest ih =>
    by_cases hfirst : first = '/'
    · subst hfirst
      rw [segments_slash]
      simpa [hc] using ih
    · obtain ⟨segment, later, hrest⟩ := List.exists_cons_of_ne_nil (segments_ne_nil rest)
      rw [hrest] at ih
      rw [segments_cons hfirst hrest, List.mem_cons, ← ih]
      simp [or_assoc]

theorem segments_append {segment : List Char} (h : '/' ∉ segment) (rest : List Char) :
    segments (segment ++ '/' :: rest) = segment :: segments rest := by
  induction segment with
  | nil => exact segments_slash rest
  | cons c segment ih =>
    rw [List.mem_cons, not_or] at h
    exact segments_cons (Ne.symm h.1) (ih h.2)

theorem segments_eq_singleton {segment : List Char} (h : '/' ∉ segment) :
    segments segment = [segment] := by
  induction segment with
  | nil => rfl
  | cons c segment ih =>
    rw [List.mem_cons, not_or] at h
    exact segments_cons (Ne.symm h.1) (ih h.2)

theorem segments_join {parts : List (List Char)} (hne : parts ≠ [])
    (h : ∀ part ∈ parts, '/' ∉ part) : segments (join parts) = parts := by
  induction parts with
  | nil => exact absurd rfl hne
  | cons part parts ih =>
    have hpart := h part List.mem_cons_self
    cases parts with
    | nil =>
      rw [join, List.intercalate_singleton]
      exact segments_eq_singleton hpart
    | cons next parts =>
      have hrest := ih (List.cons_ne_nil _ _) fun part hmem => h part (List.mem_cons_of_mem _ hmem)
      rw [join, List.intercalate_cons_cons, List.append_assoc, List.singleton_append,
        segments_append hpart]
      exact congrArg (part :: ·) hrest

/-! ## Parents -/

theorem isPrefix_trimEnd (parts : List (List Char)) : trimEnd parts <+: parts := by
  have hsuffix := List.dropWhile_suffix (l := parts.reverse) isIdle
  rw [← List.reverse_prefix, List.reverse_reverse] at hsuffix
  exact hsuffix

/-- The parent of a path consists of the first segments of the path, unless it is the path of no
directory or of the topmost one. -/
theorem segments_parent? {path parent : List Char} (h : parent? path = some parent) :
    parent = [] ∨ parent = ['/'] ∨ segments parent <+: segments path := by
  unfold parent? at h
  cases hsegments : segments path with
  | nil => exact absurd hsegments (segments_ne_nil path)
  | cons first later =>
    simp only [hsegments] at h
    split at h
    · split at h
      · cases h
      · cases h
        exact .inl rfl
    · split at h
      · cases h
        exact .inr (.inl rfl)
      · cases h
        have habove : trimEnd (trimEnd later).dropLast <+: later :=
          (isPrefix_trimEnd _).trans ((List.dropLast_prefix _).trans (isPrefix_trimEnd later))
        have hfront : first :: trimEnd (trimEnd later).dropLast <+: segments path := by
          rw [hsegments]
          exact List.cons_prefix_cons.mpr ⟨rfl, habove⟩
        have hslash : ∀ part ∈ first :: trimEnd (trimEnd later).dropLast, '/' ∉ part :=
          fun part hmem => slash_not_mem_segment (hfront.subset hmem)
        rw [segments_join (List.cons_ne_nil _ _) hslash, ← hsegments]
        exact .inr (.inr hfront)

/-- A parent has no character that its path has not, but for slashes. -/
theorem not_mem_parent? {c : Char} (hc : c ≠ '/') {path parent : List Char}
    (h : parent? path = some parent) (hpath : c ∉ path) : c ∉ parent := by
  obtain rfl | rfl | hfront := segments_parent? h
  · exact List.not_mem_nil
  · simpa using hc
  · rw [← exists_mem_segments hc] at hpath ⊢
    rintro ⟨segment, hsegment, hmem⟩
    exact hpath ⟨segment, hfront.subset hsegment, hmem⟩

/-! ## Providing directories -/

/-- A relation that holds between the states around each attempt to make a directory, made or not,
holds between the states around all of them, if it holds for the paths tried, each of which is the
parent of another. The induction is on the directories above. -/
theorem provideAll_related {σ : Type} {R : σ → σ → Prop} (refl : ∀ s, R s s)
    (trans : ∀ {s t u}, R s t → R t u → R s u) {tried : List Char → Prop}
    (parent : ∀ {path above}, tried path → parent? path = some above → tried above)
    {make : List Char → StateM σ (Except StorageProblem Unit)}
    (step : ∀ {path}, tried path → ∀ s, R s (make path s).2) (fuel : Nat) {path : List Char}
    (h : tried path) (s : σ) : R s (provideAll make fuel path s).2 := by
  induction fuel generalizing path s with
  | zero =>
    cases path with
    | nil => exact refl s
    | cons c path => exact refl s
  | succ fuel ih =>
    cases path with
    | nil => exact refl s
    | cons c path =>
      unfold provideAll
      refine bind_related (R := R) trans (step h) (fun outcome s => ?_) s
      -- only a directory that is missing above asks for more than this one attempt
      split
      · cases habove : parent? (c :: path) with
        | none => exact refl s
        | some above =>
          refine bind_related (R := R) trans (ih (parent h habove)) (fun made s => ?_) s
          cases made with
          | error problem => exact refl s
          | ok _ => exact step h s
      · exact refl s

/-- Providing directories answers that all is well, that one is missing, or what an attempt to make
one of them has answered. -/
theorem provideAll_answers {σ : Type} {allowed : Except StorageProblem Unit → Prop}
    (ok : allowed (.ok ())) (missing : allowed (.error .missing)) {tried : List Char → Prop}
    (parent : ∀ {path above}, tried path → parent? path = some above → tried above)
    {make : List Char → StateM σ (Except StorageProblem Unit)}
    (step : ∀ {path}, tried path → ∀ s, allowed (make path s).1) (fuel : Nat) {path : List Char}
    (h : tried path) (s : σ) : allowed (provideAll make fuel path s).1 := by
  induction fuel generalizing path s with
  | zero =>
    cases path with
    | nil => exact ok
    | cons c path => exact missing
  | succ fuel ih =>
    cases path with
    | nil => exact ok
    | cons c path =>
      have hmade := step h s
      unfold provideAll
      simp only [bind, StateT.bind]
      generalize make (c :: path) s = made at hmade
      obtain ⟨answer, s⟩ := made
      dsimp only
      split
      · cases habove : parent? (c :: path) with
        | none => exact missing
        | some above =>
          have hparent := ih (parent h habove) s
          simp only [StateT.bind]
          generalize provideAll make fuel above s = provided at hparent
          obtain ⟨answer, s⟩ := provided
          cases answer with
          | error problem => exact hparent
          | ok _ => exact step h s
      · exact hmade

end Path

end Countoff
