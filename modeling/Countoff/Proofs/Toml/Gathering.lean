import Countoff.Proofs.Toml.Table
import Countoff.Toml.Document

/-!
# Gathering tables

Tables of values without parts, and the lines that a document may give them in: under a header, as
an inline table, or by dotted keys, which need not stand together. The lines of the root come before
the headers, and otherwise the order is free (`Arranges`). Out of the statements that such lines
make, each table comes together with all that its lines say and no more
(`Entries.ofStatements_of_arranges`).

The root is gathered line by line. What is known in between is where each entry comes from
(`Gives`), and that no line is lost (`Gathered`).
-/

namespace Countoff.Toml

/-! ## Lines -/

/-- Names with values that have no parts. -/
abbrev Fields := List (String × Scalar)

/-- A line of the root gives a whole table or a field of one. -/
inductive RootLine where
  | inline (table : String) (fields : Fields)
  | dotted (table name : String) (value : Scalar)

inductive Line where
  | root (line : RootLine)
  | header (table : String)
  | field (name : String) (value : Scalar)

/-- A table with the lines below its header. -/
def headed (table : String × Fields) : List Line :=
  .header table.1 :: table.2.map fun field => .field field.1 field.2

structure FieldEntry (field : String × Scalar) (entry : Key × Node) : Prop where
  name : entry.1.name = field.1
  node : ∃ mark, entry.2 = .scalar mark field.2

inductive RootLine.Says : RootLine → Pair → Prop where
  | inline {key : Key} {mark : Nat} {fields : Fields} {entries : Entries}
    (hentries : List.Forall₂ FieldEntry fields entries) :
    Says (.inline key.name fields) ⟨[], key, .table mark .inline entries⟩
  | dotted {table key : Key} {mark : Nat} {value : Scalar} :
    Says (.dotted table.name key.name value) ⟨[table], key, .scalar mark value⟩

/-- What a line says as a statement. Marks are left open. -/
inductive Line.Says : Line → Statement → Prop where
  | root {line : RootLine} {pair : Pair} (hline : line.Says pair) :
    Says (.root line) (.pair (.ok pair))
  | header {key : Key} {mark : Nat} : Says (.header key.name) (.header (.ok ⟨mark, false, [], key⟩))
  | field {name : String} {value : Scalar} {key : Key} {node : Node}
    (hentry : FieldEntry (name, value) (key, node)) :
    Says (.field name value) (.pair (.ok ⟨[], key, node⟩))

def RootLine.table : RootLine → String
  | .inline table _ | .dotted table _ _ => table

/-- Two lines of the root get along if they give different fields of one table, or different
tables. -/
def RootLine.Apart : RootLine → RootLine → Prop
  | .dotted table name _, .dotted other next _ => table = other → name ≠ next
  | line, other => line.table ≠ other.table

/-- The fields that dotted keys give a table, in order. -/
def fieldsUnder (table : String) (root : List RootLine) : Fields :=
  root.filterMap fun
    | .dotted other name value => if other = table then some (name, value) else none
    | .inline _ _ => none

/-- Tables arranged as lines of the root and tables with headers. A table without fields cannot be
given by dotted keys. -/
inductive Arranges : List (String × Fields) → List RootLine → List (String × Fields) → Prop where
  | nil : Arranges [] [] []
  | header {table : String} {fields order : Fields} {tables sections : List (String × Fields)}
    {root : List RootLine} (horder : order.Perm fields) (hrest : Arranges tables root sections) :
    Arranges ((table, fields) :: tables) root ((table, order) :: sections)
  | inline {table : String} {fields order : Fields} {tables sections : List (String × Fields)}
    {root : List RootLine} (horder : order.Perm fields) (hrest : Arranges tables root sections) :
    Arranges ((table, fields) :: tables) (.inline table order :: root) sections
  | dotted {table : String} {fields : Fields} {tables sections : List (String × Fields)}
    {root : List RootLine} (hne : fields ≠ []) (hrest : Arranges tables root sections) :
    Arranges ((table, fields) :: tables)
      (fields.map (fun field => .dotted table field.1 field.2) ++ root) sections

/-! ## Statements -/

/-- The pair that gives an entry a line of its own. -/
def asPair (entry : Key × Node) : Reading Pair :=
  .ok ⟨[], entry.1, entry.2⟩

inductive SectionSays (table : String × Fields) : Section → Prop where
  | intro {key : Key} {mark : Nat} {entries : Entries} (hname : key.name = table.1)
    (hentries : List.Forall₂ FieldEntry table.2 entries) :
    SectionSays table ⟨.ok ⟨mark, false, [], key⟩, entries.map asPair⟩

theorem toSections_pairs (pairs : List (Reading Pair)) (statements : List Statement) :
    toSections (pairs.map .pair ++ statements) =
      (pairs ++ (toSections statements).1, (toSections statements).2) := by
  induction pairs with
  | nil => rfl
  | cons pair pairs ih => rw [List.map_cons, List.cons_append, toSections, ih, List.cons_append]

theorem toSections_headed {fields : Fields} {lines : List Line} {statements : List Statement}
    (h : List.Forall₂ Line.Says (fields.map (fun field => .field field.1 field.2) ++ lines)
      statements) :
    ∃ entries rest, statements = (entries.map asPair).map .pair ++ rest ∧
      List.Forall₂ FieldEntry fields entries ∧ List.Forall₂ Line.Says lines rest := by
  induction fields generalizing statements with
  | nil => exact ⟨[], statements, rfl, .nil, h⟩
  | cons field fields ih =>
    obtain _ | ⟨⟨⟩ | ⟨⟩ | ⟨hentry⟩, h⟩ := h
    obtain ⟨entries, rest, rfl, hentries, hrest⟩ := ih h
    exact ⟨_ :: entries, rest, rfl, .cons hentry hentries, hrest⟩

theorem toSections_root {root : List RootLine} {lines : List Line} {statements : List Statement}
    (h : List.Forall₂ Line.Says (root.map .root ++ lines) statements) :
    ∃ pairs rest, statements = (pairs.map .ok).map .pair ++ rest ∧
      List.Forall₂ RootLine.Says root pairs ∧ List.Forall₂ Line.Says lines rest := by
  induction root generalizing statements with
  | nil => exact ⟨[], statements, rfl, .nil, h⟩
  | cons line root ih =>
    obtain _ | ⟨⟨hline⟩, h⟩ := h
    obtain ⟨pairs, rest, rfl, hpairs, hrest⟩ := ih h
    exact ⟨_ :: pairs, rest, rfl, .cons hline hpairs, hrest⟩

theorem toSections_sections {sections : List (String × Fields)} {statements : List Statement}
    (h : List.Forall₂ Line.Says (sections.flatMap headed) statements) :
    ∃ secs, toSections statements = ([], secs) ∧ List.Forall₂ SectionSays sections secs := by
  induction sections generalizing statements with
  | nil =>
    cases h
    exact ⟨[], rfl, .nil⟩
  | cons table sections ih =>
    obtain _ | ⟨hheader, h⟩ := h
    obtain ⟨entries, rest, rfl, hentries, hrest⟩ := toSections_headed h
    obtain ⟨secs, hsecs, hsections⟩ := ih hrest
    obtain ⟨name, fields⟩ := table
    cases hheader with
    | @header key mark =>
      refine ⟨⟨.ok ⟨mark, false, [], key⟩, entries.map asPair⟩ :: secs, ?_,
        .cons (.intro rfl hentries) hsections⟩
      rw [toSections, toSections_pairs, hsecs, List.append_nil]

/-! ## Adding an entry -/

namespace Entries

/-- A table in which only the entry of one name is another. -/
structure Sets (entries : Entries) (name : String) (node : Node) (result : Entries) : Prop where
  get? : result.get? name = some node
  others : ∀ other, other ≠ name → result.get? other = entries.get? other

theorem exists_alter {entries : Entries} {name : String}
    {change : Option (Key × Node) → Reading (Key × Node)} (new : Key × Node)
    (hchange : change (entries.find? fun entry => entry.1.name = name) = .ok new)
    (hname : new.1.name = name) :
    ∃ result, entries.alter name change = .ok result ∧ entries.Sets name new.2 result := by
  induction entries with
  | nil =>
    rw [List.find?_nil] at hchange
    refine ⟨[new], ?_, ?_, ?_⟩
    · rw [alter, hchange]
      rfl
    · simp [get?, hname]
    · intro other hother
      have hne : new.1.name ≠ other := fun h => hother (h.symm.trans hname)
      simp [get?, hne]
  | cons first entries ih =>
    by_cases hfirst : first.1.name = name
    · simp only [List.find?_cons, hfirst, decide_true] at hchange
      refine ⟨new :: entries, ?_, ?_, ?_⟩
      · rw [alter, if_pos hfirst, hchange]
        rfl
      · simp [get?, hname]
      · intro other hother
        have hold : first.1.name ≠ other := fun h => hother (h.symm.trans hfirst)
        have hnew : new.1.name ≠ other := fun h => hother (h.symm.trans hname)
        simp [get?, hold, hnew]
    · simp only [List.find?_cons, hfirst, decide_false] at hchange
      obtain ⟨result, hresult, hget, hothers⟩ := ih hchange
      refine ⟨first :: result, ?_, ?_, ?_⟩
      · rw [alter, if_neg hfirst, hresult]
        rfl
      · rw [← hget]
        simp [get?, hfirst]
      · intro other hother
        have hrest := hothers other hother
        by_cases hhead : first.1.name = other
        · simp [get?, hhead]
        · simpa [get?, hhead] using hrest

theorem find?_of_get? {entries : Entries} {name : String} {node : Node}
    (h : entries.get? name = some node) :
    ∃ key, entries.find? (fun entry => entry.1.name = name) = some (key, node) ∧
      key.name = name := by
  obtain ⟨⟨key, found⟩, hfind, rfl⟩ := Option.map_eq_some_iff.1 h
  exact ⟨key, hfind, by simpa using List.find?_some hfind⟩

theorem find?_of_get?_eq_none {entries : Entries} {name : String} (h : entries.get? name = none) :
    entries.find? (fun entry => entry.1.name = name) = none :=
  Option.map_eq_none_iff.1 h

theorem addPair_of_absent {entries : Entries} {key : Key}
    (h : ∀ entry ∈ entries, entry.1.name ≠ key.name) (node : Node) :
    addPair [] key node entries = .ok (entries ++ [(key, node)]) := by
  rw [addPair, alter_of_absent h]
  rfl

theorem addPairs_asPair {entries : Entries} (new : Entries)
    (h : (entries.map (·.1.name) ++ new.map (·.1.name)).Nodup) :
    addPairs (new.map asPair) entries = .ok (entries ++ new) := by
  induction new generalizing entries with
  | nil =>
    rw [List.append_nil]
    rfl
  | cons entry new ih =>
    have habsent : ∀ other ∈ entries, other.1.name ≠ entry.1.name := by
      intro other hother heq
      have hdisjoint := (List.nodup_append.1 h).2.2
      exact hdisjoint _ (List.mem_map_of_mem hother) _ List.mem_cons_self heq
    have hrest : ((entries ++ [entry]).map (·.1.name) ++ new.map (·.1.name)).Nodup := by
      simpa [List.append_assoc] using h
    have hnew : addPairs (new.map asPair) (entries ++ [entry]) = .ok (entries ++ entry :: new) := by
      rw [ih hrest, List.append_assoc, List.singleton_append]
    rw [addPairs, List.map_cons, List.foldlM_cons]
    show (addPair [] entry.1 entry.2 entries >>= addPairs (new.map asPair)) = _
    rw [addPair_of_absent habsent]
    exact hnew

/-- Adds an entry, or the first one of a table of dotted keys. -/
theorem exists_addPair {entries : Entries} {key : Key} (h : entries.get? key.name = none)
    (node : Node) :
    ∃ result, addPair [] key node entries = .ok result ∧ entries.Sets key.name node result := by
  rw [addPair]
  refine exists_alter (key, node) ?_ rfl
  rw [find?_of_get?_eq_none h]

theorem exists_addPair_below {entries : Entries} {table : Key}
    (h : entries.get? table.name = none) (key : Key) (node : Node) :
    ∃ result, addPair [table] key node entries = .ok result ∧
      entries.Sets table.name (.table table.mark .dotted [(key, node)]) result := by
  rw [addPair]
  refine exists_alter (table, .table table.mark .dotted [(key, node)]) ?_ rfl
  rw [find?_of_get?_eq_none h]
  rfl

theorem exists_addPair_within {entries inner : Entries} {table key : Key} {mark : Nat}
    (h : entries.get? table.name = some (.table mark .dotted inner))
    (habsent : ∀ entry ∈ inner, entry.1.name ≠ key.name) (node : Node) :
    ∃ result, addPair [table] key node entries = .ok result ∧
      entries.Sets table.name (.table mark .dotted (inner ++ [(key, node)])) result := by
  obtain ⟨old, hfind, hold⟩ := find?_of_get? h
  rw [addPair]
  refine exists_alter (old, .table mark .dotted (inner ++ [(key, node)])) ?_ hold
  rw [hfind]
  simp only [addPair_of_absent habsent]
  rfl

theorem exists_openTable {entries inner : Entries} {key : Key} (h : entries.get? key.name = none)
    (hinner : (inner.map (·.1.name)).Nodup) (mark : Nat) :
    ∃ result, openTable mark key (inner.map asPair) entries = .ok result ∧
      entries.Sets key.name (.table mark .header inner) result := by
  rw [openTable]
  refine exists_alter (key, .table mark .header inner) ?_ rfl
  rw [find?_of_get?_eq_none h]
  have hpairs : addPairs (inner.map asPair) [] = .ok inner := addPairs_asPair inner hinner
  simp only [hpairs]
  rfl

end Entries

theorem names_of_fieldEntry {fields : Fields} {entries : Entries}
    (h : List.Forall₂ FieldEntry fields entries) :
    entries.map (·.1.name) = fields.map Prod.fst := by
  induction h with
  | nil => rfl
  | cons hentry _ ih => rw [List.map_cons, List.map_cons, hentry.name, ih]

/-! ## Gathering -/

/-- Where the value of a name comes from. -/
inductive Gives (root : List RootLine) (sections : List (String × Fields)) (table : String) :
    Node → Prop where
  | inline {fields : Fields} {mark : Nat} {entries : Entries}
    (hline : .inline table fields ∈ root) (hentries : List.Forall₂ FieldEntry fields entries) :
    Gives root sections table (.table mark .inline entries)
  | dotted {mark : Nat} {entries : Entries} (hne : fieldsUnder table root ≠ [])
    (hentries : List.Forall₂ FieldEntry (fieldsUnder table root) entries) :
    Gives root sections table (.table mark .dotted entries)
  | header {fields : Fields} {mark : Nat} {entries : Entries}
    (htable : (table, fields) ∈ sections) (hentries : List.Forall₂ FieldEntry fields entries) :
    Gives root sections table (.table mark .header entries)

structure Gathered (root : List RootLine) (sections : List (String × Fields)) (entries : Entries) :
    Prop where
  gives : ∀ table node, entries.get? table = some node → Gives root sections table node
  root : ∀ line ∈ root, ∃ node, entries.get? line.table = some node
  sections : ∀ table ∈ sections, ∃ node, entries.get? table.1 = some node

theorem mem_fieldsUnder {root : List RootLine} {table name : String} {value : Scalar} :
    (name, value) ∈ fieldsUnder table root ↔ .dotted table name value ∈ root := by
  rw [fieldsUnder, List.mem_filterMap]
  constructor
  · rintro ⟨line, hline, heq⟩
    cases line with
    | inline => cases heq
    | dotted other next found =>
      dsimp only at heq
      by_cases htable : other = table
      · rw [if_pos htable] at heq
        cases heq
        rwa [← htable]
      · rw [if_neg htable] at heq
        cases heq
  · intro hline
    exact ⟨_, hline, if_pos rfl⟩

theorem fieldsUnder_append (table : String) (root more : List RootLine) :
    fieldsUnder table (root ++ more) = fieldsUnder table root ++ fieldsUnder table more :=
  List.filterMap_append

theorem fieldsUnder_eq_nil {root : List RootLine} {table : String}
    (h : ∀ line ∈ root, line.table ≠ table) : fieldsUnder table root = [] := by
  refine List.eq_nil_iff_forall_not_mem.2 fun field hfield => ?_
  exact h _ (mem_fieldsUnder.1 hfield) rfl

theorem fieldsUnder_dotted (table : String) (fields : Fields) :
    fieldsUnder table (fields.map fun field => .dotted table field.1 field.2) = fields := by
  rw [fieldsUnder, List.filterMap_map]
  simp

theorem fieldsUnder_append_of_ne {root : List RootLine} {line : RootLine} {table : String}
    (h : line.table ≠ table) : fieldsUnder table (root ++ [line]) = fieldsUnder table root := by
  have hnone : fieldsUnder table [line] = [] := fieldsUnder_eq_nil (by simpa using h)
  rw [fieldsUnder_append, hnone, List.append_nil]

theorem Gives.exists_line {root : List RootLine} {table : String} {node : Node}
    (h : Gives root [] table node) : ∃ line ∈ root, line.table = table := by
  cases h with
  | inline hline _ => exact ⟨_, hline, rfl⟩
  | dotted hne _ =>
    obtain ⟨field, hfield⟩ := List.exists_mem_of_ne_nil _ hne
    exact ⟨_, mem_fieldsUnder.1 hfield, rfl⟩
  | header htable _ => cases htable

/-- A line about another table changes nothing. -/
theorem Gives.append_line {root : List RootLine} {sections : List (String × Fields)}
    {line : RootLine} {table : String} {node : Node} (h : Gives root sections table node)
    (hline : line.table ≠ table) : Gives (root ++ [line]) sections table node := by
  cases h with
  | inline hmem hentries => exact .inline (List.mem_append_left _ hmem) hentries
  | dotted hne hentries =>
    rw [← fieldsUnder_append_of_ne hline] at hne hentries
    exact .dotted hne hentries
  | header htable hentries => exact .header htable hentries

/-- One more line of the root, if what it gives is known. -/
theorem Gathered.append_line {root : List RootLine} {entries result : Entries} {line : RootLine}
    {node : Node} (h : Gathered root [] entries) (hsets : entries.Sets line.table node result)
    (hnode : Gives (root ++ [line]) [] line.table node) : Gathered (root ++ [line]) [] result where
  gives table found hfound := by
    by_cases htable : table = line.table
    · rw [htable, hsets.get?] at hfound
      cases hfound
      rwa [htable]
    · rw [hsets.others table htable] at hfound
      exact (h.gives table found hfound).append_line fun heq => htable heq.symm
  root other hother := by
    by_cases htable : other.table = line.table
    · exact ⟨node, htable ▸ hsets.get?⟩
    · rw [hsets.others _ htable]
      rcases List.mem_append.1 hother with hother | hother
      · exact h.root other hother
      · exact absurd (congrArg RootLine.table (List.mem_singleton.1 hother)) htable
  sections := nofun

theorem Gathered.addPair_inline {root : List RootLine} {entries inner : Entries} {fields : Fields}
    {key : Key} (h : Gathered root [] entries) (hinner : List.Forall₂ FieldEntry fields inner)
    (hapart : ∀ other ∈ root, other.Apart (.inline key.name fields)) (mark : Nat) :
    ∃ result, Entries.addPair [] key (.table mark .inline inner) entries = .ok result ∧
      Gathered (root ++ [.inline key.name fields]) [] result := by
  -- no line in front of this one is about its table
  have habsent : entries.get? key.name = none := by
    refine Option.eq_none_iff_forall_ne_some.2 fun node hnode => ?_
    obtain ⟨other, hother, htable⟩ := (h.gives _ _ hnode).exists_line
    cases other <;> exact hapart _ hother htable
  obtain ⟨result, hresult, hsets⟩ := Entries.exists_addPair habsent (.table mark .inline inner)
  refine ⟨result, hresult, h.append_line hsets (.inline ?_ hinner)⟩
  exact List.mem_append_right _ (List.mem_singleton.2 rfl)

/-- A field by a dotted key is the first one of its table, or it comes behind those that dotted keys
gave before. -/
theorem Gathered.addPair_dotted {root : List RootLine} {entries : Entries} {table key : Key}
    {value : Scalar} (h : Gathered root [] entries)
    (hapart : ∀ other ∈ root, other.Apart (.dotted table.name key.name value)) (mark : Nat) :
    ∃ result, Entries.addPair [table] key (.scalar mark value) entries = .ok result ∧
      Gathered (root ++ [.dotted table.name key.name value]) [] result := by
  have hentry : FieldEntry (key.name, value) (key, .scalar mark value) := ⟨rfl, mark, rfl⟩
  have hfields : fieldsUnder table.name (root ++ [.dotted table.name key.name value]) =
      fieldsUnder table.name root ++ [(key.name, value)] := by
    rw [fieldsUnder_append]
    exact congrArg _ (fieldsUnder_dotted table.name [(key.name, value)])
  have hgives : ∀ {mark : Nat} {inner : Entries},
      List.Forall₂ FieldEntry (fieldsUnder table.name root ++ [(key.name, value)]) inner →
        Gives (root ++ [.dotted table.name key.name value]) [] table.name
          (.table mark .dotted inner) := by
    intro mark inner hinner
    rw [← hfields] at hinner
    refine .dotted ?_ hinner
    rw [hfields]
    exact List.append_ne_nil_of_right_ne_nil _ (List.cons_ne_nil _ _)
  cases hget : entries.get? table.name with
  | none =>
    have hnone : fieldsUnder table.name root = [] := by
      refine fieldsUnder_eq_nil fun line hline htable => ?_
      obtain ⟨node, hnode⟩ := h.root line hline
      rw [htable, hget] at hnode
      cases hnode
    rw [hnone] at hgives
    obtain ⟨result, hresult, hsets⟩ := Entries.exists_addPair_below hget key (.scalar mark value)
    exact ⟨result, hresult, h.append_line hsets (hgives (.cons hentry .nil))⟩
  | some node =>
    cases h.gives _ _ hget with
    | inline hline _ => exact absurd rfl (hapart _ hline)
    | header htable _ => cases htable
    | @dotted _ inner hne hinner =>
      have habsent : ∀ entry ∈ inner, entry.1.name ≠ key.name := by
        intro entry hentry hname
        have hmem : key.name ∈ (fieldsUnder table.name root).map Prod.fst := by
          rw [← names_of_fieldEntry hinner, ← hname]
          exact List.mem_map_of_mem hentry
        obtain ⟨⟨name, found⟩, hfield, rfl⟩ := List.mem_map.1 hmem
        exact hapart _ (mem_fieldsUnder.1 hfield) rfl rfl
      obtain ⟨result, hresult, hsets⟩ := Entries.exists_addPair_within hget habsent _
      have hall := List.rel_append hinner (.cons hentry .nil)
      exact ⟨result, hresult, h.append_line hsets (hgives hall)⟩

/-- A line that gets along with those in front of it can be added to what they gave. -/
theorem Gathered.addPair {root : List RootLine} {entries : Entries} {line : RootLine} {pair : Pair}
    (h : Gathered root [] entries) (hline : line.Says pair)
    (hapart : ∀ other ∈ root, other.Apart line) :
    ∃ result, Entries.addPair pair.path pair.key pair.node entries = .ok result ∧
      Gathered (root ++ [line]) [] result := by
  cases hline with
  | inline hinner => exact h.addPair_inline hinner hapart _
  | dotted => exact h.addPair_dotted hapart _

theorem Gathered.addPairs {before root : List RootLine} {pairs : List Pair} {entries : Entries}
    (h : Gathered before [] entries) (hpairs : List.Forall₂ RootLine.Says root pairs)
    (hapart : (before ++ root).Pairwise RootLine.Apart) :
    ∃ result, Entries.addPairs (pairs.map .ok) entries = .ok result ∧
      Gathered (before ++ root) [] result := by
  induction hpairs generalizing before entries with
  | nil => exact ⟨entries, rfl, by rwa [List.append_nil]⟩
  | @cons line pair root pairs hline _ ih =>
    have hfront : ∀ other ∈ before, other.Apart line := fun other hother =>
      (List.pairwise_append.1 hapart).2.2 other hother line List.mem_cons_self
    obtain ⟨next, hnext, hgathered⟩ := h.addPair hline hfront
    rw [List.append_cons] at hapart ⊢
    obtain ⟨result, hresult, hall⟩ := ih hgathered hapart
    refine ⟨result, ?_, hall⟩
    rw [List.map_cons, Entries.addPairs, List.foldlM_cons]
    show (Entries.addPair _ _ _ entries >>= Entries.addPairs (pairs.map .ok)) = _
    rw [hnext]
    exact hresult

theorem Gives.append_section {root : List RootLine} {sections : List (String × Fields)}
    {table : String} {node : Node} (h : Gives root sections table node) (sec : String × Fields) :
    Gives root (sections ++ [sec]) table node := by
  cases h with
  | inline hline hentries => exact .inline hline hentries
  | dotted hne hentries => exact .dotted hne hentries
  | header htable hentries => exact .header (List.mem_append_left _ htable) hentries

/-- A table whose name was not used yet can be added with its header. -/
theorem Gathered.addSection {root : List RootLine} {sections : List (String × Fields)}
    {entries : Entries} {table : String × Fields} {sec : Section}
    (h : Gathered root sections entries) (hsec : SectionSays table sec)
    (hfields : (table.2.map Prod.fst).Nodup) (hroot : ∀ line ∈ root, line.table ≠ table.1)
    (hsections : ∀ other ∈ sections, other.1 ≠ table.1) :
    ∃ result, entries.addSection sec = .ok result ∧ Gathered root (sections ++ [table]) result := by
  obtain @⟨key, mark, inner, hname, hinner⟩ := hsec
  have habsent : entries.get? key.name = none := by
    refine Option.eq_none_iff_forall_ne_some.2 fun node hnode => ?_
    rw [hname] at hnode
    cases h.gives _ _ hnode with
    | inline hline _ => exact hroot _ hline rfl
    | dotted hne _ =>
      obtain ⟨field, hfield⟩ := List.exists_mem_of_ne_nil _ hne
      exact hroot _ (mem_fieldsUnder.1 hfield) rfl
    | header htable _ => exact hsections _ htable rfl
  have hnodup : (inner.map (·.1.name)).Nodup := by rwa [names_of_fieldEntry hinner]
  obtain ⟨result, hresult, hsets⟩ := Entries.exists_openTable habsent hnodup mark
  rw [hname] at hsets
  refine ⟨result, hresult, ?_, ?_, ?_⟩
  · intro other node hnode
    by_cases hother : other = table.1
    · rw [hother, hsets.get?] at hnode
      cases hnode
      rw [hother]
      exact .header (List.mem_append_right _ (List.mem_singleton.2 rfl)) hinner
    · rw [hsets.others other hother] at hnode
      exact (h.gives other node hnode).append_section table
  · intro line hline
    rw [hsets.others _ (hroot line hline)]
    exact h.root line hline
  · intro other hother
    rcases List.mem_append.1 hother with hother | hother
    · rw [hsets.others _ (hsections other hother)]
      exact h.sections other hother
    · rw [List.mem_singleton.1 hother]
      exact ⟨_, hsets.get?⟩

theorem Gathered.addSections {root : List RootLine} {before sections : List (String × Fields)}
    {secs : List Section} {entries : Entries} (h : Gathered root before entries)
    (hsecs : List.Forall₂ SectionSays sections secs)
    (hfields : ∀ table ∈ sections, (table.2.map Prod.fst).Nodup)
    (hroot : ∀ line ∈ root, ∀ table ∈ sections, line.table ≠ table.1)
    (hnames : ((before ++ sections).map Prod.fst).Nodup) :
    ∃ result, secs.foldlM Entries.addSection entries = .ok result ∧
      Gathered root (before ++ sections) result := by
  induction hsecs generalizing before entries with
  | nil => exact ⟨entries, rfl, by rwa [List.append_nil]⟩
  | @cons table sec sections secs hsec _ ih =>
    rw [List.forall_mem_cons] at hfields
    have hfront : ∀ other ∈ before, other.1 ≠ table.1 := by
      intro other hother heq
      rw [List.map_append, List.nodup_append] at hnames
      exact hnames.2.2 _ (List.mem_map_of_mem hother) _ List.mem_cons_self heq
    obtain ⟨next, hnext, hgathered⟩ := h.addSection hsec hfields.1
      (fun line hline => hroot line hline table List.mem_cons_self) hfront
    rw [List.append_cons] at hnames ⊢
    obtain ⟨result, hresult, hall⟩ := ih hgathered hfields.2
      (fun line hline other hother => hroot line hline other (List.mem_cons_of_mem _ hother)) hnames
    refine ⟨result, ?_, hall⟩
    rw [List.foldlM_cons, hnext]
    exact hresult

/-! ## Arrangements -/

/-- One of the tables, with its fields in some order. -/
def Orders (tables : List (String × Fields)) (table : String) (order : Fields) : Prop :=
  ∃ fields, (table, fields) ∈ tables ∧ order.Perm fields

theorem Orders.cons {tables : List (String × Fields)} {table : String} {order : Fields}
    (h : Orders tables table order) (first : String × Fields) :
    Orders (first :: tables) table order := by
  obtain ⟨fields, hmem, hperm⟩ := h
  exact ⟨fields, List.mem_cons_of_mem _ hmem, hperm⟩

namespace Arranges

variable {tables sections : List (String × Fields)} {root : List RootLine}

theorem headers (tables : List (String × Fields)) : Arranges tables [] tables := by
  induction tables with
  | nil => exact .nil
  | cons table tables ih => exact .header (List.Perm.refl table.2) ih

theorem table_mem (h : Arranges tables root sections) :
    ∀ line ∈ root, line.table ∈ tables.map Prod.fst := by
  induction h with
  | nil => nofun
  | header _ _ ih => exact fun line hline => List.mem_cons_of_mem _ (ih line hline)
  | inline _ _ ih =>
    intro line hline
    rcases List.mem_cons.1 hline with rfl | hline
    · exact List.mem_cons_self
    · exact List.mem_cons_of_mem _ (ih line hline)
  | dotted _ _ ih =>
    intro line hline
    rcases List.mem_append.1 hline with hline | hline
    · obtain ⟨field, -, rfl⟩ := List.mem_map.1 hline
      exact List.mem_cons_self
    · exact List.mem_cons_of_mem _ (ih line hline)

theorem sections_sublist (h : Arranges tables root sections) :
    (sections.map Prod.fst).Sublist (tables.map Prod.fst) := by
  induction h with
  | nil => exact List.Sublist.refl _
  | header _ _ ih => exact ih.cons_cons _
  | inline _ _ ih | dotted _ _ ih => exact ih.cons _

/-- No table has lines of the root and a header. -/
theorem table_ne (h : Arranges tables root sections) (hnames : (tables.map Prod.fst).Nodup) :
    ∀ line ∈ root, ∀ table ∈ sections, line.table ≠ table.1 := by
  induction h with
  | nil => nofun
  | header _ hrest ih =>
    rw [List.map_cons, List.nodup_cons] at hnames
    intro line hline table htable heq
    rcases List.mem_cons.1 htable with rfl | htable
    · exact hnames.1 (heq ▸ hrest.table_mem line hline)
    · exact ih hnames.2 line hline table htable heq
  | inline _ hrest ih =>
    rw [List.map_cons, List.nodup_cons] at hnames
    intro line hline table htable heq
    rcases List.mem_cons.1 hline with rfl | hline
    · have hmem := hrest.sections_sublist.subset (List.mem_map_of_mem htable)
      rw [← heq] at hmem
      exact hnames.1 hmem
    · exact ih hnames.2 line hline table htable heq
  | dotted _ hrest ih =>
    rw [List.map_cons, List.nodup_cons] at hnames
    intro line hline table htable heq
    rcases List.mem_append.1 hline with hline | hline
    · obtain ⟨field, -, rfl⟩ := List.mem_map.1 hline
      have hmem := hrest.sections_sublist.subset (List.mem_map_of_mem htable)
      rw [← heq] at hmem
      exact hnames.1 hmem
    · exact ih hnames.2 line hline table htable heq

theorem apart (h : Arranges tables root sections) (hnames : (tables.map Prod.fst).Nodup)
    (hfields : ∀ table ∈ tables, (table.2.map Prod.fst).Nodup) : root.Pairwise RootLine.Apart := by
  have hne : ∀ {line other : RootLine}, line.table ≠ other.table → line.Apart other := by
    intro line other hne
    cases line <;> cases other <;> first | exact hne | exact fun heq => absurd heq hne
  induction h with
  | nil => exact .nil
  | header _ _ ih =>
    rw [List.forall_mem_cons] at hfields
    exact ih (List.nodup_cons.1 hnames).2 hfields.2
  | inline _ hrest ih =>
    rw [List.forall_mem_cons] at hfields
    rw [List.map_cons, List.nodup_cons] at hnames
    refine .cons (fun line hline => hne fun heq => hnames.1 ?_) (ih hnames.2 hfields.2)
    have hmem := hrest.table_mem line hline
    rw [← heq] at hmem
    exact hmem
  | @dotted table fields tables sections root _ hrest ih =>
    rw [List.forall_mem_cons] at hfields
    rw [List.map_cons, List.nodup_cons] at hnames
    refine List.pairwise_append.2 ⟨?_, ih hnames.2 hfields.2, ?_⟩
    · rw [List.pairwise_map]
      exact (List.pairwise_map.1 hfields.1).imp fun hname _ => hname
    · intro line hline other hother
      obtain ⟨field, -, rfl⟩ := List.mem_map.1 hline
      refine hne fun heq => hnames.1 ?_
      have hmem := hrest.table_mem other hother
      rw [← heq] at hmem
      exact hmem

theorem of_inline (h : Arranges tables root sections) {table : String} {order : Fields}
    (hline : .inline table order ∈ root) : Orders tables table order := by
  induction h with
  | nil => cases hline
  | header _ _ ih => exact (ih hline).cons _
  | inline horder _ ih =>
    rcases List.mem_cons.1 hline with heq | hline
    · cases heq
      exact ⟨_, List.mem_cons_self, horder⟩
    · exact (ih hline).cons _
  | dotted _ _ ih =>
    rcases List.mem_append.1 hline with hline | hline
    · obtain ⟨field, -, heq⟩ := List.mem_map.1 hline
      cases heq
    · exact (ih hline).cons _

theorem of_header (h : Arranges tables root sections) {table : String} {order : Fields}
    (hsection : (table, order) ∈ sections) : Orders tables table order := by
  induction h with
  | nil => cases hsection
  | header horder _ ih =>
    rcases List.mem_cons.1 hsection with heq | hsection
    · cases heq
      exact ⟨_, List.mem_cons_self, horder⟩
    · exact (ih hsection).cons _
  | inline _ _ ih | dotted _ _ ih => exact (ih hsection).cons _

theorem of_dotted (h : Arranges tables root sections) (hnames : (tables.map Prod.fst).Nodup)
    {table : String} (hne : fieldsUnder table root ≠ []) :
    (table, fieldsUnder table root) ∈ tables := by
  induction h with
  | nil => exact absurd rfl hne
  | header _ _ ih => exact List.mem_cons_of_mem _ (ih (List.nodup_cons.1 hnames).2 hne)
  | inline _ _ ih => exact List.mem_cons_of_mem _ (ih (List.nodup_cons.1 hnames).2 hne)
  | @dotted other fields tables sections root _ hrest ih =>
    rw [List.map_cons, List.nodup_cons] at hnames
    rw [fieldsUnder_append] at hne ⊢
    by_cases htable : other = table
    · have hnone : fieldsUnder table root = [] := by
        refine fieldsUnder_eq_nil fun line hline heq => hnames.1 ?_
        have hmem := hrest.table_mem line hline
        rw [heq, ← htable] at hmem
        exact hmem
      rw [hnone, List.append_nil, htable, fieldsUnder_dotted]
      exact List.mem_cons_self
    · have hnone :
          fieldsUnder table (fields.map fun field => .dotted other field.1 field.2) = [] := by
        refine fieldsUnder_eq_nil fun line hline heq => htable ?_
        obtain ⟨field, -, rfl⟩ := List.mem_map.1 hline
        exact heq
      rw [hnone, List.nil_append] at hne ⊢
      exact List.mem_cons_of_mem _ (ih hnames.2 hne)

theorem exists_of_mem (h : Arranges tables root sections) :
    ∀ table ∈ tables, (∃ line ∈ root, line.table = table.1) ∨
      ∃ sec ∈ sections, sec.1 = table.1 := by
  induction h with
  | nil => nofun
  | header _ _ ih =>
    refine List.forall_mem_cons.2 ⟨.inr ⟨_, List.mem_cons_self, rfl⟩, fun table htable => ?_⟩
    exact (ih table htable).imp_right fun ⟨sec, hsec, hname⟩ =>
      ⟨sec, List.mem_cons_of_mem _ hsec, hname⟩
  | inline _ _ ih =>
    refine List.forall_mem_cons.2 ⟨.inl ⟨_, List.mem_cons_self, rfl⟩, fun table htable => ?_⟩
    exact (ih table htable).imp_left fun ⟨line, hline, hname⟩ =>
      ⟨line, List.mem_cons_of_mem _ hline, hname⟩
  | @dotted name fields _ _ _ hne _ ih =>
    refine List.forall_mem_cons.2 ⟨.inl ?_, fun table htable => ?_⟩
    · obtain ⟨field, hfield⟩ := List.exists_mem_of_ne_nil _ hne
      exact ⟨.dotted name field.1 field.2,
        List.mem_append_left _ (List.mem_map.2 ⟨field, hfield, rfl⟩), rfl⟩
    · exact (ih table htable).imp_left fun ⟨line, hline, hname⟩ =>
        ⟨line, List.mem_append_right _ hline, hname⟩

end Arranges

/-! ## Whole documents -/

def Node.IsTableOf (fields : Fields) (node : Node) : Prop :=
  ∃ mark origin entries order, node = .table mark origin entries ∧ order.Perm fields ∧
    List.Forall₂ FieldEntry order entries

/-- The entries of a root are tables, and no other than these. -/
structure Entries.AreTables (entries : Entries) (tables : List (String × Fields)) : Prop where
  only : ∀ table node, entries.get? table = some node →
    ∃ fields, (table, fields) ∈ tables ∧ node.IsTableOf fields
  all : ∀ table ∈ tables, ∃ node, entries.get? table.1 = some node

theorem Gathered.areTables {tables sections order : List (String × Fields)}
    {root lines : List RootLine} {entries : Entries} (h : Gathered lines order entries)
    (harranges : Arranges tables root sections) (hnames : (tables.map Prod.fst).Nodup)
    (hlines : lines.Perm root) (horder : order.Perm sections) : entries.AreTables tables where
  only table node hnode := by
    cases h.gives table node hnode with
    | inline hline hentries =>
      obtain ⟨fields, hmem, hperm⟩ := harranges.of_inline (hlines.mem_iff.1 hline)
      exact ⟨fields, hmem, _, _, _, _, rfl, hperm, hentries⟩
    | header htable hentries =>
      obtain ⟨fields, hmem, hperm⟩ := harranges.of_header (horder.mem_iff.1 htable)
      exact ⟨fields, hmem, _, _, _, _, rfl, hperm, hentries⟩
    | dotted hne hentries =>
      have hperm : (fieldsUnder table lines).Perm (fieldsUnder table root) := hlines.filterMap _
      have hne : fieldsUnder table root ≠ [] := fun heq => by
        rw [heq] at hperm
        exact hne hperm.eq_nil
      exact ⟨_, harranges.of_dotted hnames hne, _, _, _, _, rfl, hperm, hentries⟩
  all table htable := by
    rcases harranges.exists_of_mem table htable with ⟨line, hline, hname⟩ | ⟨sec, hsec, hname⟩
    · obtain ⟨node, hnode⟩ := h.root line (hlines.mem_iff.2 hline)
      exact ⟨node, hname ▸ hnode⟩
    · obtain ⟨node, hnode⟩ := h.sections sec (horder.mem_iff.2 hsec)
      exact ⟨node, hname ▸ hnode⟩

/-- Tables come together from any arrangement of their lines. -/
theorem Entries.ofStatements_of_arranges {tables sections order : List (String × Fields)}
    {root lines : List RootLine} {statements : List Statement}
    (harranges : Arranges tables root sections) (hnames : (tables.map Prod.fst).Nodup)
    (hfields : ∀ table ∈ tables, (table.2.map Prod.fst).Nodup) (hlines : lines.Perm root)
    (horder : order.Perm sections)
    (hstatements : List.Forall₂ Line.Says (lines.map .root ++ order.flatMap headed) statements) :
    ∃ entries, Entries.ofStatements statements = .ok entries ∧ entries.AreTables tables := by
  obtain ⟨pairs, rest, rfl, hpairs, hrest⟩ := toSections_root hstatements
  obtain ⟨secs, hsecs, hsections⟩ := toSections_sections hrest
  have hapart : lines.Pairwise RootLine.Apart := by
    have hsymm : ∀ {line other : RootLine}, line.Apart other → other.Apart line := by
      intro line other h
      cases line <;> cases other <;>
        first | exact Ne.symm h | exact fun htable => (h htable.symm).symm
    exact (hlines.pairwise_iff hsymm).2 (harranges.apart hnames hfields)
  have hnil : Gathered [] [] [] := ⟨nofun, nofun, nofun⟩
  obtain ⟨inner, hinner, hgathered⟩ := hnil.addPairs hpairs hapart
  have horderNames : (([] ++ order).map Prod.fst).Nodup :=
    (horder.map Prod.fst).nodup_iff.2 (harranges.sections_sublist.nodup hnames)
  have horderFields : ∀ table ∈ order, (table.2.map Prod.fst).Nodup := by
    rintro ⟨name, fields⟩ htable
    obtain ⟨given, hgiven, hperm⟩ := harranges.of_header (horder.mem_iff.1 htable)
    exact (hperm.map Prod.fst).nodup_iff.2 (hfields _ hgiven)
  obtain ⟨entries, hentries, hall⟩ := hgathered.addSections hsections horderFields
    (fun line hline table htable => harranges.table_ne hnames line (hlines.mem_iff.1 hline) table
      (horder.mem_iff.1 htable)) horderNames
  refine ⟨entries, ?_, hall.areTables harranges hnames hlines horder⟩
  rw [Entries.ofStatements, toSections_pairs, hsecs, List.append_nil]
  show (Entries.addPairs (pairs.map .ok) [] >>= secs.foldlM Entries.addSection) = _
  rw [hinner]
  exact hentries

end Countoff.Toml
