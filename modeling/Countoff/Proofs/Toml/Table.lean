import Countoff.Proofs.Except
import Countoff.Toml.Table
import Mathlib.Data.List.Nodup

/-!
# Keys that stand once

Whatever pairs and headers a table is put together from, no key comes to stand in it twice, and
none in a table inside it (`Entries.WellFormed`). All changes of a table go through `Entries.alter`,
which replaces the first entry of a name or adds one at the end (`alter_of_present`,
`alter_of_absent`), so a change that leaves the name and well-formedness of the entry alone leaves
those of the table alone too.
-/

namespace Countoff.Toml

/-! ## Looking an entry up -/

namespace Entries

variable {entries : Entries} {name : String}

theorem mem_of_get? {node : Node} (h : entries.get? name = some node) :
    ∃ key, (key, node) ∈ entries ∧ key.name = name := by
  obtain ⟨⟨key, found⟩, hfind, rfl⟩ := Option.map_eq_some_iff.1 h
  exact ⟨key, List.mem_of_find?_eq_some hfind, by simpa using List.find?_some hfind⟩

theorem get?_eq_none : entries.get? name = none ↔ ∀ entry ∈ entries, entry.1.name ≠ name := by
  rw [get?, Option.map_eq_none_iff, List.find?_eq_none]
  simp

end Entries

/-! ## Changing an entry -/

namespace Entries

variable {entries before after : Entries} {name : String} {old : Key × Node}

theorem alter_of_absent (habsent : ∀ entry ∈ entries, entry.1.name ≠ name)
    (change : Option (Key × Node) → Reading (Key × Node)) :
    entries.alter name change = (change none).map fun new => entries ++ [new] := by
  induction entries with
  | nil => rfl
  | cons first entries ih =>
    rw [List.forall_mem_cons] at habsent
    rw [alter, if_neg habsent.1, ih habsent.2]
    cases change none <;> rfl

theorem alter_of_present (hbefore : ∀ entry ∈ before, entry.1.name ≠ name)
    (hname : old.1.name = name) (change : Option (Key × Node) → Reading (Key × Node)) :
    Entries.alter name change (before ++ old :: after) =
      (change (some old)).map fun new => before ++ new :: after := by
  induction before with
  | nil =>
    rw [List.nil_append, alter, if_pos hname]
    rfl
  | cons first before ih =>
    rw [List.forall_mem_cons] at hbefore
    rw [List.cons_append, alter, if_neg hbefore.1, ih hbefore.2]
    cases change (some old) <;> rfl

/-- A name has no entry, or a first one. -/
theorem absent_or_split (entries : Entries) (name : String) :
    (∀ entry ∈ entries, entry.1.name ≠ name) ∨
      ∃ before old after, entries = before ++ old :: after ∧
        (∀ entry ∈ before, entry.1.name ≠ name) ∧ old.1.name = name := by
  induction entries with
  | nil => exact .inl nofun
  | cons first entries ih =>
    by_cases hfirst : first.1.name = name
    · exact .inr ⟨[], first, entries, rfl, nofun, hfirst⟩
    · rcases ih with habsent | ⟨before, old, after, rfl, hbefore, hname⟩
      · exact .inl (List.forall_mem_cons.2 ⟨hfirst, habsent⟩)
      · exact .inr ⟨first :: before, old, after, rfl, List.forall_mem_cons.2 ⟨hfirst, hbefore⟩,
          hname⟩

end Entries

/-! ## Well-formed tables -/

/-- In no table of a value does a key stand twice. -/
inductive Node.WellFormed : Node → Prop where
  | scalar {mark : Nat} {value : Scalar} : WellFormed (.scalar mark value)
  | array {mark : Nat} {ofTables : Bool} {items : List Node}
    (hitems : ∀ item ∈ items, WellFormed item) : WellFormed (.array mark ofTables items)
  | table {mark : Nat} {origin : Origin} {entries : List (Key × Node)}
    (hnames : (entries.map (·.1.name)).Nodup) (hnodes : ∀ entry ∈ entries, WellFormed entry.2) :
    WellFormed (.table mark origin entries)

structure Entries.WellFormed (entries : Entries) : Prop where
  names : (entries.map (·.1.name)).Nodup
  nodes : ∀ entry ∈ entries, entry.2.WellFormed

namespace Node

variable {mark : Nat} {origin : Origin} {ofTables : Bool} {items : List Node} {entries : Entries}

theorem wellFormed_table : (table mark origin entries).WellFormed ↔ entries.WellFormed := by
  constructor
  · intro h
    cases h with
    | table hnames hnodes => exact ⟨hnames, hnodes⟩
  · rintro ⟨hnames, hnodes⟩
    exact .table hnames hnodes

theorem wellFormed_array :
    (array mark ofTables items).WellFormed ↔ ∀ item ∈ items, item.WellFormed := by
  constructor
  · intro h
    cases h with
    | array hitems => exact hitems
  · exact .array

end Node

/-- A change of tables that keeps them well-formed. -/
def KeepsWellFormed (change : Entries → Reading Entries) : Prop :=
  ∀ entries result, entries.WellFormed → change entries = .ok result → result.WellFormed

namespace Entries

theorem wellFormed_nil : WellFormed [] :=
  ⟨List.nodup_nil, nofun⟩

theorem WellFormed.get?_of_mem {entries : Entries} (h : entries.WellFormed) {key : Key}
    {node : Node} (hentry : (key, node) ∈ entries) : entries.get? key.name = some node := by
  cases hget : entries.get? key.name with
  | none => exact absurd rfl (get?_eq_none.1 hget _ hentry)
  | some found =>
    obtain ⟨other, hother, hname⟩ := mem_of_get? hget
    cases List.inj_on_of_nodup_map h.names hother hentry hname
    rfl

theorem WellFormed.node {entries : Entries} (h : entries.WellFormed) {name : String} {node : Node}
    (hget : entries.get? name = some node) : node.WellFormed := by
  obtain ⟨key, hentry, -⟩ := mem_of_get? hget
  exact h.nodes _ hentry

theorem WellFormed.table {entries inner : Entries} (h : entries.WellFormed) {name : String}
    {mark : Nat} {origin : Origin} (hget : entries.get? name = some (.table mark origin inner)) :
    inner.WellFormed :=
  Node.wellFormed_table.1 (h.node hget)

/-- A change of an entry keeps the table well-formed if it gives a well-formed value under the name
that it was asked for. -/
theorem keeps_alter {name : String} {change : Option (Key × Node) → Reading (Key × Node)}
    (hchange : ∀ old new, (∀ entry, old = some entry → entry.1.name = name ∧ entry.2.WellFormed) →
      change old = .ok new → new.1.name = name ∧ new.2.WellFormed) :
    KeepsWellFormed (alter name change) := by
  intro entries result h hresult
  rcases absent_or_split entries name with habsent | ⟨before, old, after, rfl, hbefore, hname⟩
  · rw [alter_of_absent habsent, map_eq_ok] at hresult
    obtain ⟨new, hnew, rfl⟩ := hresult
    obtain ⟨hnewName, hnewNode⟩ := hchange none new nofun hnew
    constructor
    · rw [List.map_append, List.nodup_append]
      refine ⟨h.names, List.nodup_singleton _, ?_⟩
      rintro _ hmem _ hother rfl
      obtain ⟨entry, hentry, hentryName⟩ := List.mem_map.1 hmem
      rw [List.map_singleton, List.mem_singleton] at hother
      exact habsent entry hentry (hentryName.trans (hother.trans hnewName))
    · intro entry hentry
      rcases List.mem_append.1 hentry with hentry | hentry
      · exact h.nodes entry hentry
      · rw [List.mem_singleton] at hentry
        exact hentry ▸ hnewNode
  · rw [alter_of_present hbefore hname, map_eq_ok] at hresult
    obtain ⟨new, hnew, rfl⟩ := hresult
    have hold : old.2.WellFormed := h.nodes old (by simp)
    obtain ⟨hnewName, hnewNode⟩ := hchange (some old) new
      (fun entry heq => by cases heq; exact ⟨hname, hold⟩) hnew
    constructor
    · have hnames := h.names
      rw [List.map_append, List.map_cons, hname] at hnames
      rwa [List.map_append, List.map_cons, hnewName]
    · intro entry hentry
      rcases List.mem_append.1 hentry with hentry | hentry
      · exact h.nodes entry (List.mem_append_left _ hentry)
      · rcases List.mem_cons.1 hentry with rfl | hentry
        · exact hnewNode
        · exact h.nodes entry (List.mem_append_right _ (List.mem_cons_of_mem _ hentry))

end Entries

theorem wellFormed_alterLast {change : Entries → Reading Entries} (hchange : KeepsWellFormed change)
    {items result : List Node} (hitems : ∀ item ∈ items, item.WellFormed)
    (h : alterLast change items = .ok result) : ∀ item ∈ result, item.WellFormed := by
  induction items using alterLast.induct generalizing result with
  | case1 => cases h
  | case2 mark origin entries =>
    obtain ⟨changed, hchanged, rfl⟩ := map_eq_ok.1 h
    have hentries := Node.wellFormed_table.1 (hitems _ List.mem_cons_self)
    intro item hitem
    rw [List.mem_singleton.1 hitem]
    exact Node.wellFormed_table.2 (hchange _ _ hentries hchanged)
  | case3 item items hlast ih =>
    rw [alterLast] at h
    · obtain ⟨changed, hchanged, rfl⟩ := map_eq_ok.1 h
      rw [List.forall_mem_cons] at hitems ⊢
      exact ⟨hitems.1, ih hitems.2 hchanged⟩
    · exact hlast

section KeepsWellFormed

variable {change : Entries → Reading Entries} (hchange : KeepsWellFormed change) {name : String}
  {key : Key} (hname : key.name = name) {mark : Nat} {new : Key × Node}
include hchange hname

/-- Where the table of an entry is changed, the entry is what `Entries.keeps_alter` asks for. -/
theorem KeepsWellFormed.table {origin : Origin} {entries : Entries} (hentries : entries.WellFormed)
    (hnew : (change entries).map (key, .table mark origin ·) = .ok new) :
    new.1.name = name ∧ new.2.WellFormed := by
  obtain ⟨inner, hinner, rfl⟩ := map_eq_ok.1 hnew
  exact ⟨hname, Node.wellFormed_table.2 (hchange _ _ hentries hinner)⟩

/-- So it is where the last table of an array is changed. -/
theorem KeepsWellFormed.last {ofTables : Bool} {items : List Node}
    (hitems : ∀ item ∈ items, item.WellFormed)
    (hnew : (alterLast change items).map (key, .array mark ofTables ·) = .ok new) :
    new.1.name = name ∧ new.2.WellFormed := by
  obtain ⟨result, hresult, rfl⟩ := map_eq_ok.1 hnew
  exact ⟨hname, .array (wellFormed_alterLast hchange hitems hresult)⟩

end KeepsWellFormed

namespace Entries

/-! ## Pairs and headers -/

theorem keeps_addPair {path : List Key} {key : Key} {node : Node} (hnode : node.WellFormed) :
    KeepsWellFormed (addPair path key node) := by
  induction path with
  | nil =>
    refine keeps_alter fun old new _ hnew => ?_
    cases old with
    | none =>
      cases hnew
      exact ⟨rfl, hnode⟩
    | some entry => cases hnew
  | cons step path ih =>
    refine keeps_alter fun old new hold hnew => ?_
    -- the entry on the way, if there is one, lends its name and its well-formedness
    split at hnew
    · exact ih.table rfl wellFormed_nil hnew
    · obtain ⟨hname, hentries⟩ := hold _ rfl
      exact ih.table hname (Node.wellFormed_table.1 hentries) hnew
    · split at hnew
      · cases hnew
      · obtain ⟨hname, hentries⟩ := hold _ rfl
        exact ih.table hname (Node.wellFormed_table.1 hentries) hnew
    · split at hnew
      · cases hnew
      · obtain ⟨hname, hitems⟩ := hold _ rfl
        exact ih.last hname (Node.wellFormed_array.1 hitems) hnew
    · cases hnew

/-- The values of the pairs that have no problem are well-formed. -/
def PairsWellFormed (pairs : List (Reading Pair)) : Prop :=
  ∀ pair, .ok pair ∈ pairs → pair.node.WellFormed

theorem keeps_addPairs {pairs : List (Reading Pair)} (hpairs : PairsWellFormed pairs) :
    KeepsWellFormed (addPairs pairs) := by
  induction pairs with
  | nil =>
    intro entries result h hresult
    cases hresult
    exact h
  | cons pair pairs ih =>
    intro entries result h hresult
    rw [addPairs, List.foldlM_cons] at hresult
    obtain ⟨next, hnext, hrest⟩ := bind_eq_ok.1 hresult
    obtain ⟨read, rfl, hread⟩ := bind_eq_ok.1 hnext
    have hnode : read.node.WellFormed := hpairs read List.mem_cons_self
    have hrestPairs : PairsWellFormed pairs := fun other hother =>
      hpairs other (List.mem_cons_of_mem _ hother)
    refine ih hrestPairs next result ?_ hrest
    exact keeps_addPair hnode entries next h hread

theorem keeps_alterWithin {change : Entries → Reading Entries} (hchange : KeepsWellFormed change)
    (path : List Key) : KeepsWellFormed (alterWithin change path) := by
  induction path with
  | nil => exact hchange
  | cons step path ih =>
    refine keeps_alter fun old new hold hnew => ?_
    split at hnew
    · exact ih.table rfl wellFormed_nil hnew
    · cases hnew
    · obtain ⟨hname, hentries⟩ := hold _ rfl
      exact ih.table hname (Node.wellFormed_table.1 hentries) hnew
    · obtain ⟨hname, hitems⟩ := hold _ rfl
      exact ih.last hname (Node.wellFormed_array.1 hitems) hnew
    · cases hnew

theorem keeps_openTable {mark : Nat} {key : Key} {pairs : List (Reading Pair)}
    (hpairs : PairsWellFormed pairs) : KeepsWellFormed (openTable mark key pairs) := by
  refine keeps_alter fun old new hold hnew => ?_
  split at hnew
  · exact (keeps_addPairs hpairs).table rfl wellFormed_nil hnew
  · have hentries := Node.wellFormed_table.1 (hold _ rfl).2
    exact (keeps_addPairs hpairs).table rfl hentries hnew
  · cases hnew

theorem keeps_openItem {mark : Nat} {key : Key} {item : Entries} (hitem : item.WellFormed) :
    KeepsWellFormed (openItem mark key item) := by
  have hnode : (Node.table mark .header item).WellFormed := Node.wellFormed_table.2 hitem
  refine keeps_alter fun old new hold hnew => ?_
  split at hnew
  · cases hnew
    exact ⟨rfl, .array (by simpa using hnode)⟩
  · next items =>
    cases hnew
    obtain ⟨hname, hitems⟩ := hold _ rfl
    refine ⟨hname, .array fun item hmem => ?_⟩
    rcases List.mem_append.1 hmem with hmem | hmem
    · exact Node.wellFormed_array.1 hitems item hmem
    · exact List.mem_singleton.1 hmem ▸ hnode
  · cases hnew

theorem WellFormed.addSection {entries result : Entries} {sec : Section} (h : entries.WellFormed)
    (hpairs : PairsWellFormed sec.pairs) (hresult : addSection entries sec = .ok result) :
    result.WellFormed := by
  obtain ⟨header, -, hresult⟩ := bind_eq_ok.1 hresult
  split at hresult
  · obtain ⟨item, hitem, hresult⟩ := bind_eq_ok.1 hresult
    have hitem : item.WellFormed := keeps_addPairs hpairs _ _ wellFormed_nil hitem
    exact keeps_alterWithin (keeps_openItem hitem) _ _ _ h hresult
  · exact keeps_alterWithin (keeps_openTable hpairs) _ _ _ h hresult

end Entries

end Countoff.Toml
