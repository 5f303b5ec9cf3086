import Countoff.Proofs.Toml.Table
import Countoff.Toml.Document
import Mathlib.Data.Option.Basic

/-!
# Documents in which keys stand once

Every table that is read from a text is well-formed (`read_wellFormed`): the readers of values put
tables together by the changes of `Entries`, which keep them so, and the statements of a document
hold nothing but such values.
-/

namespace Countoff.Toml

open Entries (PairsWellFormed)

/-! ## Values -/

/-- What a reader of values reads without a problem is well-formed. -/
def ReadsWellFormed (readItem? : List Char → Option (Reading Node × List Char)) : Prop :=
  ∀ cs node rest, readItem? cs = some (.ok node, rest) → node.WellFormed

theorem readScalar?_wellFormed : ReadsWellFormed readScalar? := by
  intro cs node rest h
  simp only [readScalar?] at h
  split at h
  · split at h
    · cases h
      exact .scalar
    · cases h
  · split at h
    · cases h
    · split at h
      · cases h
        exact .scalar
      · cases h

section Parts

variable {readItem? : List Char → Option (Reading Node × List Char)} {cs rest : List Char}

theorem readPair?_wellFormed (hitem : ReadsWellFormed readItem?)
    {skip? : List Char → Option (List Char)} {pair : Pair}
    (h : readPair? readItem? skip? cs = some (.ok pair, rest)) : pair.node.WellFormed := by
  simp only [readPair?, Option.bind_eq_bind, Option.bind_eq_some_iff, Option.pure_def] at h
  obtain ⟨behind, -, h⟩ := h
  split at h
  · simp only [Option.bind_eq_some_iff, Option.some.injEq, Prod.mk.injEq] at h
    obtain ⟨value, -, ⟨node, after⟩, hread, hpair, -⟩ := h
    obtain ⟨⟨front, last⟩, -, hpair⟩ := bind_eq_ok.1 hpair
    obtain ⟨node, rfl, hpair⟩ := bind_eq_ok.1 hpair
    cases hpair
    exact hitem _ _ _ hread
  · cases h

theorem readItems?_wellFormed (hitem : ReadsWellFormed readItem?) {fuel : Nat} {items : List Node}
    (h : readItems? readItem? fuel cs = some (.ok items, rest)) :
    ∀ item ∈ items, item.WellFormed := by
  induction fuel generalizing cs items rest with
  | zero => cases h
  | succ fuel ih =>
    simp only [readItems?, Option.bind_eq_bind, Option.bind_eq_some_iff, Option.pure_def] at h
    obtain ⟨begin, -, h⟩ := h
    split at h
    · cases h
      exact nofun
    · simp only [Option.bind_eq_some_iff] at h
      obtain ⟨⟨item, behind⟩, hread, after, -, h⟩ := h
      split at h
      · simp only [Option.bind_eq_some_iff, Option.some.injEq, Prod.mk.injEq] at h
        obtain ⟨⟨others, last⟩, hothers, hitems, -⟩ := h
        obtain ⟨first, rfl, hrest⟩ := bind_eq_ok.1 hitems
        obtain ⟨others, rfl, heq⟩ := bind_eq_ok.1 hrest
        cases heq
        exact List.forall_mem_cons.2 ⟨hitem _ _ _ hread, ih hothers⟩
      · simp only [Option.some.injEq, Prod.mk.injEq] at h
        obtain ⟨first, rfl, rfl⟩ := map_eq_ok.1 h.1
        exact List.forall_mem_singleton.2 (hitem _ _ _ hread)
      · cases h

theorem readPairs?_wellFormed (hitem : ReadsWellFormed readItem?) {fuel : Nat}
    {before : Reading Entries} {entries : Entries}
    (hbefore : ∀ entries, before = .ok entries → entries.WellFormed)
    (h : readPairs? readItem? before fuel cs = some (.ok entries, rest)) : entries.WellFormed := by
  induction fuel generalizing cs rest before with
  | zero => cases h
  | succ fuel ih =>
    simp only [readPairs?, Option.bind_eq_bind, Option.bind_eq_some_iff, Option.pure_def] at h
    obtain ⟨begin, -, h⟩ := h
    split at h
    · simp only [Option.some.injEq, Prod.mk.injEq] at h
      exact hbefore _ h.1
    · simp only [Option.bind_eq_some_iff] at h
      obtain ⟨⟨pair, behind⟩, hread, after, -, h⟩ := h
      have hnext : ∀ entries, before >>= Entries.addPairs [pair] = .ok entries →
          entries.WellFormed := by
        intro entries hentries
        obtain ⟨first, hfirst, hentries⟩ := bind_eq_ok.1 hentries
        refine Entries.keeps_addPairs ?_ _ _ (hbefore first hfirst) hentries
        intro read hmem
        cases List.mem_singleton.1 hmem
        exact readPair?_wellFormed hitem hread
      split at h
      · exact ih hnext h
      · simp only [Option.some.injEq, Prod.mk.injEq] at h
        exact hnext _ h.1
      · cases h

theorem readLoneKey?_wellFormed {entries : Entries}
    (h : readLoneKey? cs = some (.ok entries, rest)) : entries.WellFormed := by
  simp only [readLoneKey?, Option.bind_eq_bind, Option.bind_eq_some_iff, Option.pure_def] at h
  obtain ⟨begin, -, behind, -, h⟩ := h
  split at h
  · simp only [Option.some.injEq, Prod.mk.injEq] at h
    obtain ⟨keys, -, rfl⟩ := map_eq_ok.1 h.1
    exact Entries.wellFormed_nil
  · cases h

end Parts

theorem readValue?_wellFormed (depth : Nat) : ReadsWellFormed (readValue? depth) := by
  induction depth with
  | zero => exact readScalar?_wellFormed
  | succ depth ih =>
    intro cs node rest h
    unfold readValue? at h
    split at h
    · simp only [Option.bind_eq_bind, Option.bind_eq_some_iff, Option.pure_def, Option.some.injEq,
        Prod.mk.injEq] at h
      obtain ⟨⟨items, after⟩, hread, hnode, -⟩ := h
      obtain ⟨items, rfl, rfl⟩ := map_eq_ok.1 hnode
      exact .array (readItems?_wellFormed ih hread)
    · simp only [Option.bind_eq_bind, Option.bind_eq_some_iff, Option.pure_def, Option.some.injEq,
        Prod.mk.injEq] at h
      obtain ⟨⟨entries, after⟩, hread, hnode, -⟩ := h
      obtain ⟨entries, rfl, rfl⟩ := map_eq_ok.1 hnode
      refine Node.wellFormed_table.2 ?_
      rcases (Option.orElse_eq_some ..).1 hread with hpairs | ⟨-, hlone⟩
      · refine readPairs?_wellFormed ih ?_ hpairs
        rintro entries ⟨⟩
        exact Entries.wellFormed_nil
      · exact readLoneKey?_wellFormed hlone
    · exact readScalar?_wellFormed _ _ _ h

/-! ## Documents -/

/-- The value of a pair is well-formed, if it has no problem. -/
def Statement.WellFormed (statement : Statement) : Prop :=
  ∀ pair, statement = .pair (.ok pair) → pair.node.WellFormed

theorem readLineValue?_wellFormed : ReadsWellFormed readLineValue? := by
  intro cs node rest h
  rcases (Option.orElse_eq_some ..).1 h with hvalue | ⟨-, hmissing⟩
  · exact readValue?_wellFormed maxDepth _ _ _ hvalue
  · obtain ⟨after, -, heq⟩ := Option.map_eq_some_iff.1 hmissing
    cases heq

theorem readStatement?_wellFormed {cs rest : List Char} {statement : Statement}
    (h : readStatement? cs = some (statement, rest)) : statement.WellFormed := by
  rintro pair rfl
  simp only [readStatement?] at h
  split at h
  · simp only [Option.bind_eq_bind, Option.bind_eq_some_iff, Option.pure_def, Option.some.injEq,
      Prod.mk.injEq] at h
    obtain ⟨_, -, heq, -⟩ := h
    cases heq
  · simp only [Option.bind_eq_bind, Option.bind_eq_some_iff, Option.pure_def, Option.some.injEq,
      Prod.mk.injEq] at h
    obtain ⟨_, -, heq, -⟩ := h
    cases heq
  · simp only [Option.bind_eq_bind, Option.bind_eq_some_iff, Option.pure_def, Option.some.injEq,
      Prod.mk.injEq] at h
    obtain ⟨⟨read, after⟩, hread, heq, -⟩ := h
    cases heq
    exact readPair?_wellFormed readLineValue?_wellFormed hread

theorem readStatements?_wellFormed {fuel : Nat} {cs : List Char} {statements : List Statement}
    (h : readStatements? fuel cs = some statements) :
    ∀ statement ∈ statements, statement.WellFormed := by
  induction fuel generalizing cs statements with
  | zero => cases h
  | succ fuel ih =>
    simp only [readStatements?, Option.bind_eq_bind, Option.bind_eq_some_iff, Option.pure_def] at h
    obtain ⟨begin, -, h⟩ := h
    split at h
    · cases h
      exact nofun
    · simp only [Option.bind_eq_some_iff, Option.some.injEq] at h
      obtain ⟨⟨statement, behind⟩, hread, after, -, others, hothers, rfl⟩ := h
      exact List.forall_mem_cons.2 ⟨readStatement?_wellFormed hread, ih hothers⟩

theorem toSections_wellFormed {statements : List Statement}
    (h : ∀ statement ∈ statements, statement.WellFormed) :
    PairsWellFormed (toSections statements).1 ∧
      ∀ sec ∈ (toSections statements).2, PairsWellFormed sec.pairs := by
  induction statements with
  | nil => exact ⟨nofun, nofun⟩
  | cons statement statements ih =>
    rw [List.forall_mem_cons] at h
    obtain ⟨hpairs, hsections⟩ := ih h.2
    cases statement with
    | pair pair =>
      refine ⟨fun read hmem => ?_, hsections⟩
      rcases List.mem_cons.1 hmem with rfl | hmem
      · exact h.1 read rfl
      · exact hpairs read hmem
    | header header => exact ⟨nofun, List.forall_mem_cons.2 ⟨hpairs, hsections⟩⟩

theorem Entries.WellFormed.addSections {sections : List Section} {entries result : Entries}
    (h : entries.WellFormed) (hsections : ∀ sec ∈ sections, PairsWellFormed sec.pairs)
    (hresult : sections.foldlM Entries.addSection entries = .ok result) : result.WellFormed := by
  induction sections generalizing entries with
  | nil =>
    cases hresult
    exact h
  | cons sec sections ih =>
    rw [List.forall_mem_cons] at hsections
    rw [List.foldlM_cons] at hresult
    obtain ⟨next, hnext, hrest⟩ := bind_eq_ok.1 hresult
    exact ih (h.addSection hsections.1 hnext) hsections.2 hrest

/-- No key stands twice in a table of a document. -/
theorem read_wellFormed {text : List Char} {entries : Entries} (h : read text = .ok entries) :
    entries.WellFormed := by
  simp only [read] at h
  split at h
  · next statements hread =>
    obtain ⟨hpairs, hsections⟩ := toSections_wellFormed (readStatements?_wellFormed hread)
    obtain ⟨first, hfirst, hrest⟩ := bind_eq_ok.1 h
    have hfirst := Entries.keeps_addPairs hpairs _ _ Entries.wellFormed_nil hfirst
    exact hfirst.addSections hsections hrest
  · cases h

end Countoff.Toml
