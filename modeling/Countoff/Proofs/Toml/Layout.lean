import Countoff.Proofs.Toml.Gathering
import Countoff.Proofs.Toml.Scalars

/-!
# Spellings of documents

The texts that a list of lines may be laid out as (`DocumentText`). A line is a header, or it gives
a value without parts or an inline table of such values, under a key of its own or below another.
Spaces may stand around every mark, comments at the end of every line, and empty lines in between.
The reader makes a statement out of each line and nothing out of the rest (`DocumentText.read`), so
the tables that the lines give come together from the text (`DocumentText.read_of_arranges`).

Marks are left open in what the statements say: they follow from the layout.
-/

namespace Countoff.Toml

/-! ## What stands between words -/

/-- A character that is not skipped in front of a word. -/
abbrev IsVisible (c : Char) : Prop :=
  isSpace c = false ∧ c ≠ '\n' ∧ c ≠ '\r' ∧ c ≠ '#'

theorem StartsWord.isVisible {text : List Char} (h : StartsWord text) :
    ∃ c cs, text = c :: cs ∧ IsVisible c := by
  obtain ⟨c, cs, rfl, hc⟩ := h
  refine ⟨c, cs, rfl, ?_⟩
  rcases hc with hc | rfl | rfl
  · have hne : ∀ d, isPlain d = false → c ≠ d := fun d => ne_of_isPlain hc
    refine ⟨?_, hne '\n' (by decide), hne '\r' (by decide), hne '#' (by decide)⟩
    simp [isSpace, hne ' ' (by decide), hne '\t' (by decide)]
  all_goals exact ⟨by decide, by decide, by decide, by decide⟩

theorem skipLines?_space {c : Char} (hc : isSpace c = true) (cs : List Char) :
    skipLines? false (c :: cs) = skipLines? false cs := by
  have hline : c ≠ '\n' := by
    rintro rfl
    cases hc
  have hreturn : c ≠ '\r' := by
    rintro rfl
    cases hc
  rw [skipLines?, if_neg (by decide), if_pos hc]
  all_goals
    intros
    contradiction

theorem skipLines?_blank {blank : List Char} (hblank : IsBlank blank) (cs : List Char) :
    skipLines? false (blank ++ cs) = skipLines? false cs := by
  induction blank with
  | nil => rfl
  | cons c blank ih =>
    have hblank := List.forall_mem_cons.1 hblank
    rw [List.cons_append, skipLines?_space hblank.1, ih hblank.2]

theorem skipLines?_skipSpaces (cs : List Char) :
    skipLines? false (skipSpaces cs) = skipLines? false cs := by
  have hblank : IsBlank (cs.takeWhile isSpace) := fun c hc => List.mem_takeWhile_imp hc
  conv => rhs; rw [← List.takeWhile_append_dropWhile (p := isSpace) (l := cs)]
  exact (skipLines?_blank hblank _).symm

theorem skipLines?_visible {c : Char} (hc : IsVisible c) (cs : List Char) :
    skipLines? false (c :: cs) = some (c :: cs) := by
  obtain ⟨hspace, hline, hreturn, hmark⟩ := hc
  rw [skipLines?, if_neg (by decide), if_neg (by simp [hspace]), if_neg hmark]
  all_goals
    intros
    contradiction

theorem skipLines?_comment {comment : List Char} (hcomment : ∀ c ∈ comment, isCommentChar c = true)
    (cs : List Char) : skipLines? true (comment ++ cs) = skipLines? true cs := by
  induction comment with
  | nil => rfl
  | cons c comment ih =>
    rw [List.forall_mem_cons] at hcomment
    obtain ⟨hc, hcomment⟩ := hcomment
    have hline : c ≠ '\n' := by
      rintro rfl
      cases hc
    have hreturn : c ≠ '\r' := by
      rintro rfl
      cases hc
    rw [List.cons_append, skipLines?, if_pos rfl, if_pos hc, ih hcomment]
    all_goals
      intros
      contradiction

/-! ## Pairs -/

/-- Keys with points between them. -/
inductive PathText : List String → List Char → Prop where
  | last {name : String} {key : List Char} (hkey : KeyText name key) : PathText [name] key
  | step {name : String} {names : List String} {key before behind rest : List Char}
    (hkey : KeyText name key) (hbefore : IsBlank before) (hbehind : IsBlank behind)
    (hrest : PathText names rest) :
    PathText (name :: names) (key ++ (before ++ '.' :: (behind ++ rest)))

/-- A pair of keys and the text of a value. -/
inductive PairText (names : List String) (value : List Char) : List Char → Prop where
  | intro {path before behind : List Char} (hpath : PathText names path) (hbefore : IsBlank before)
    (hbehind : IsBlank behind) : PairText names value (path ++ (before ++ '=' :: (behind ++ value)))

/-- A mark of the grammar that ends words and values. -/
abbrev IsMark (c : Char) : Prop :=
  IsVisible c ∧ isWordChar c = false ∧ c ≠ '.'

theorem endsWord_blank {blank : List Char} (hblank : IsBlank blank) {c : Char}
    (hc : isWordChar c = false) (cs : List Char) : EndsWord (blank ++ c :: cs) := by
  intro d hd
  cases blank with
  | nil =>
    cases hd
    exact hc
  | cons first blank =>
    cases hd
    simp [isWordChar, hblank d List.mem_cons_self]

theorem PathText.startsWord {names : List String} {text : List Char} (h : PathText names text) :
    StartsWord text := by
  cases h with
  | last hkey => exact hkey.startsWord
  | step hkey =>
    obtain ⟨c, cs, rfl, hc⟩ := hkey.startsWord
    exact ⟨c, _, rfl, hc⟩

theorem PathText.length_le {names : List String} {text : List Char} (h : PathText names text) :
    names.length ≤ text.length := by
  induction h with
  | last hkey =>
    obtain ⟨c, cs, rfl, -⟩ := hkey.startsWord
    simp
  | step hkey _ _ _ ih =>
    simp only [List.length_cons, List.length_append]
    omega

/-- The keys that are read from a path have its names. -/
theorem PathText.splitPath {names : List String} {text blank : List Char} (h : PathText names text)
    (hblank : IsBlank blank) {c : Char} (hc : IsMark c) (rest : List Char) {fuel : Nat}
    (hfuel : names.length ≤ fuel) :
    ∃ path front last, splitPath fuel (text ++ (blank ++ c :: rest)) = (path, c :: rest) ∧
      path.front.mapM KeyToken.key = .ok front ∧ path.last.key = .ok last ∧
      front.map Key.name ++ [last.name] = names := by
  induction h generalizing fuel with
  | @last name key hkey =>
    obtain ⟨⟨hspace, -⟩, hword, hpoint⟩ := hc
    obtain ⟨fuel, rfl⟩ := Nat.exists_eq_add_one_of_ne_zero (Nat.ne_zero_of_lt hfuel)
    have hsplit := hkey.splitToken (endsWord_blank hblank hword rest)
    let mark := (key ++ (blank ++ c :: rest)).length
    refine ⟨⟨[], ⟨key, mark⟩⟩, [], ⟨name, mark⟩, ?_, rfl, hkey.key mark, rfl⟩
    simp only [Toml.splitPath, hsplit, skipSpaces_append hblank, skipSpaces_cons hspace]
    split
    · next heq =>
      cases heq
      contradiction
    · rfl
  | @step name names key before behind tail hkey hbefore hbehind htail ih =>
    rw [List.length_cons] at hfuel
    obtain ⟨fuel, rfl⟩ := Nat.exists_eq_add_one_of_ne_zero (Nat.ne_zero_of_lt hfuel)
    have hfuel : names.length ≤ fuel := by omega
    obtain ⟨path, front, last, hpath, hfront, hlast, hnames⟩ := ih hfuel
    let after := tail ++ (blank ++ c :: rest)
    let mark := (key ++ (before ++ '.' :: (behind ++ after))).length
    have hsplit := hkey.splitToken (endsWord_blank hbefore (c := '.') rfl (behind ++ after))
    have hpoint : skipSpaces (before ++ '.' :: (behind ++ after)) = '.' :: (behind ++ after) := by
      rw [skipSpaces_append hbefore, skipSpaces_cons (by decide)]
    have hafter : skipSpaces (behind ++ after) = after := by
      obtain ⟨d, ds, rfl, hd, -⟩ := htail.startsWord.isVisible
      rw [skipSpaces_append hbehind]
      exact skipSpaces_cons hd _
    refine ⟨⟨⟨key, mark⟩ :: path.front, path.last⟩, ⟨name, mark⟩ :: front, last, ?_, ?_, hlast, ?_⟩
    · have htext : key ++ (before ++ '.' :: (behind ++ tail)) ++ (blank ++ c :: rest) =
          key ++ (before ++ '.' :: (behind ++ after)) := by
        simp only [after, List.append_assoc, List.cons_append]
      rw [htext, Toml.splitPath]
      simp only [hsplit, hpoint, hafter, after, hpath, mark]
    · simp only [List.mapM_cons, hkey.key, hfront]
      rfl
    · rw [List.map_cons, List.cons_append, hnames]

theorem PairText.startsWord {names : List String} {value text : List Char}
    (h : PairText names value text) : StartsWord text := by
  obtain ⟨hpath, -, -⟩ := h
  obtain ⟨c, cs, rfl, hc⟩ := hpath.startsWord
  exact ⟨c, _, rfl, hc⟩

/-- A way to skip what may stand around the mark of a pair. -/
def SkipsBlank (skip? : List Char → Option (List Char)) : Prop :=
  ∀ blank c cs, IsBlank blank → IsVisible c → skip? (blank ++ c :: cs) = some (c :: cs)

theorem skipsBlank_skipSpaces : SkipsBlank (some ∘ skipSpaces) := by
  intro blank c cs hblank hc
  rw [Function.comp_apply, skipSpaces_append hblank, skipSpaces_cons hc.1]

theorem skipsBlank_skipLines : SkipsBlank (skipLines? false) := by
  intro blank c cs hblank hc
  rw [skipLines?_blank hblank, skipLines?_visible hc]

/-- A pair is read whenever its value is. -/
theorem PairText.readPair? {names : List String} {value text rest : List Char} {node : Node}
    {readItem? : List Char → Option (Reading Node × List Char)}
    {skip? : List Char → Option (List Char)} (h : PairText names value text)
    (hdepth : names.length ≤ maxDepth)
    (hskip : SkipsBlank skip?)
    (hstart : ∃ c cs, value = c :: cs ∧ IsVisible c)
    (hvalue : readItem? (value ++ rest) = some (.ok node, rest)) :
    ∃ front last, readPair? readItem? skip? (text ++ rest) = some (.ok ⟨front, last, node⟩, rest) ∧
      front.map Key.name ++ [last.name] = names := by
  obtain @⟨path, before, behind, hpath, hbefore, hbehind⟩ := h
  have hequals : IsVisible '=' := ⟨by decide, by decide, by decide, by decide⟩
  have htext : path ++ (before ++ '=' :: (behind ++ value)) ++ rest =
      path ++ (before ++ '=' :: (behind ++ (value ++ rest))) := by
    simp only [List.append_assoc, List.cons_append]
  have hfuel :
      names.length ≤ (path ++ (before ++ '=' :: (behind ++ (value ++ rest)))).length + 1 := by
    have hlength := hpath.length_le
    rw [List.length_append]
    omega
  obtain ⟨keys, front, last, hsplit, hfront, hlast, hnames⟩ :=
    hpath.splitPath hbefore ⟨hequals, rfl, by decide⟩ (behind ++ (value ++ rest)) hfuel
  have hkeys : keys.keys = .ok (front, last) := by
    have hlength : front.length < maxDepth := by
      rw [← hnames, List.length_append, List.length_map, List.length_singleton] at hdepth
      omega
    rw [KeyPath.keys, hfront, hlast]
    exact if_pos hlength
  have hmark :
      skip? ('=' :: (behind ++ (value ++ rest))) = some ('=' :: (behind ++ (value ++ rest))) :=
    hskip [] '=' _ isBlank_nil hequals
  have hbehind : skip? (behind ++ (value ++ rest)) = some (value ++ rest) := by
    obtain ⟨c, cs, rfl, hc⟩ := hstart
    exact hskip behind c _ hbehind hc
  refine ⟨front, last, ?_, hnames⟩
  rw [htext, Toml.readPair?, hsplit]
  simp only [hmark, hbehind, hvalue, hkeys, Option.bind_eq_bind, Option.bind_some]
  rfl

/-! ## Values -/

theorem ScalarText.readValue? {value : Scalar} {text rest : List Char} (h : ScalarText value text)
    (hrest : EndsScalar rest) (depth : Nat) :
    readValue? depth (text ++ rest) = some (.ok (.scalar (text ++ rest).length value), rest) := by
  have hread := h.readScalar? hrest
  obtain ⟨c, cs, rfl, hc⟩ := h.startsWord
  cases depth with
  | zero => rwa [Toml.readValue?]
  | succ depth =>
    rw [List.cons_append] at hread ⊢
    rw [Toml.readValue?, hread]
    all_goals
      intro rest heq
      cases heq
      rcases hc with hc | hc | hc <;> cases hc

/-- Pairs with commas between them. -/
inductive FieldsText : Fields → List Char → Prop where
  | last {name : String} {value : Scalar} {text pair : List Char} (hvalue : ScalarText value text)
    (hpair : PairText [name] text pair) : FieldsText [(name, value)] pair
  | next {name : String} {value : Scalar} {fields : Fields}
    {text pair before behind rest : List Char} (hvalue : ScalarText value text)
    (hpair : PairText [name] text pair) (hbefore : IsBlank before) (hbehind : IsBlank behind)
    (hrest : FieldsText fields rest) :
    FieldsText ((name, value) :: fields) (pair ++ (before ++ ',' :: (behind ++ rest)))

/-- Inline tables. -/
inductive TableText : Fields → List Char → Prop where
  | empty {blank : List Char} (hblank : IsBlank blank) :
    TableText [] ('\x7b' :: (blank ++ ['\x7d']))
  | fields {fields : Fields} {before text behind : List Char}
    (hbefore : IsBlank before) (hfields : FieldsText fields text) (hbehind : IsBlank behind) :
    TableText fields ('\x7b' :: (before ++ (text ++ (behind ++ ['\x7d']))))

theorem FieldsText.length_le {fields : Fields} {text : List Char} (h : FieldsText fields text) :
    fields.length ≤ text.length := by
  induction h with
  | last _ hpair =>
    obtain ⟨c, cs, rfl, -⟩ := hpair.startsWord
    simp
  | next _ _ _ _ _ ih =>
    simp only [List.length_cons, List.length_append]
    omega

theorem endsScalar_blank {blank : List Char} (hblank : IsBlank blank) {c : Char} (hc : IsMark c)
    (cs : List Char) : EndsScalar (blank ++ c :: cs) := by
  obtain ⟨⟨hspace, -⟩, hword, hpoint⟩ := hc
  intro d hd
  rw [skipSpaces_append hblank, skipSpaces_cons hspace] at hd
  cases hd
  exact ⟨hword, hpoint⟩

theorem names_singleton {front : List Key} {last : Key} {name : String}
    (h : front.map Key.name ++ [last.name] = [name]) : front = [] ∧ last.name = name := by
  cases front with
  | nil => exact ⟨rfl, List.singleton_inj.1 h⟩
  | cons first front => simp at h

theorem readPairs?_blank {readItem? : List Char → Option (Reading Node × List Char)}
    {blank : List Char} (hblank : IsBlank blank) (entries : Reading Entries) (fuel : Nat)
    (cs : List Char) :
    readPairs? readItem? entries fuel (blank ++ cs) = readPairs? readItem? entries fuel cs := by
  cases fuel with
  | zero => rfl
  | succ fuel => rw [readPairs?, readPairs?, skipLines?_blank hblank]

theorem names_pair {front : List Key} {last : Key} {name next : String}
    (h : front.map Key.name ++ [last.name] = [name, next]) :
    ∃ above, front = [above] ∧ above.name = name ∧ last.name = next := by
  match front, h with
  | [above], h =>
    rw [List.map_singleton, List.singleton_append, List.cons.injEq, List.singleton_inj] at h
    exact ⟨above, rfl, h⟩
  | [], h => simp at h
  | _ :: _ :: front, h => simp at h

/-- Behind a pair of an inline table its text goes on with a mark. -/
theorem readPairs?_pair {name : String} {value : Scalar} {text pair blank : List Char}
    (hvalue : ScalarText value text) (hpair : PairText [name] text pair) (hblank : IsBlank blank)
    {c : Char} (hc : IsMark c) (rest : List Char) {entries : Entries}
    (habsent : ∀ entry ∈ entries, entry.1.name ≠ name) (depth fuel : Nat) :
    ∃ entry, FieldEntry (name, value) entry ∧
      readPairs? (readValue? depth) (.ok entries) (fuel + 1) (pair ++ (blank ++ c :: rest)) =
        match c :: rest with
        | ',' :: rest => readPairs? (readValue? depth) (.ok (entries ++ [entry])) fuel rest
        | '\x7d' :: rest => some (.ok (entries ++ [entry]), rest)
        | _ => none := by
  have hread := hvalue.readValue? (endsScalar_blank hblank hc rest) depth
  obtain ⟨front, last, hread, hnames⟩ :=
    hpair.readPair? (by simp [maxDepth]) skipsBlank_skipLines hvalue.startsWord.isVisible hread
  obtain ⟨rfl, rfl⟩ := names_singleton hnames
  have hstart :
      skipLines? false (pair ++ (blank ++ c :: rest)) = some (pair ++ (blank ++ c :: rest)) := by
    obtain ⟨d, ds, rfl, hd⟩ := hpair.startsWord.isVisible
    exact skipLines?_visible hd _
  have hbehind : skipLines? false (blank ++ c :: rest) = some (c :: rest) :=
    skipsBlank_skipLines blank c rest hblank hc.1
  have hadd : ∀ node, ((.ok entries : Reading Entries) >>=
      Entries.addPairs [.ok ⟨[], last, node⟩]) = .ok (entries ++ [(last, node)]) := by
    intro node
    show (Entries.addPair [] last node entries >>= pure) = _
    rw [Entries.addPair_of_absent habsent]
    rfl
  refine ⟨(last, .scalar _ value), ⟨rfl, (text ++ (blank ++ c :: rest)).length, rfl⟩, ?_⟩
  rw [readPairs?, hstart]
  simp only [Option.bind_eq_bind, Option.bind_some]
  split
  · next heq =>
    obtain ⟨d, ds, rfl, hd⟩ := hpair.startsWord
    cases heq
    rcases hd with hd | hd | hd <;> cases hd
  · simp only [hread, hbehind, Option.bind_some, hadd]
    rfl

theorem FieldsText.readPairs? {fields : Fields} {text blank : List Char}
    (h : FieldsText fields text) (hblank : IsBlank blank) (rest : List Char) {entries : Entries}
    (hnames : (entries.map (·.1.name) ++ fields.map Prod.fst).Nodup) (depth : Nat) {fuel : Nat}
    (hfuel : fields.length ≤ fuel) :
    ∃ new, readPairs? (readValue? depth) (.ok entries) fuel (text ++ (blank ++ '\x7d' :: rest)) =
        some (.ok (entries ++ new), rest) ∧ List.Forall₂ FieldEntry fields new := by
  have habsent : ∀ {entries : Entries} {name : String} {names : List String},
      (entries.map (·.1.name) ++ name :: names).Nodup →
        ∀ entry ∈ entries, entry.1.name ≠ name := by
    intro entries name names hnames entry hentry
    exact (List.nodup_append.1 hnames).2.2 _ (List.mem_map_of_mem hentry) _ List.mem_cons_self
  induction h generalizing entries fuel with
  | last hvalue hpair =>
    obtain ⟨fuel, rfl⟩ := Nat.exists_eq_add_one_of_ne_zero (Nat.ne_zero_of_lt hfuel)
    have hbrace : IsMark '\x7d' := by decide
    obtain ⟨entry, hentry, hread⟩ :=
      readPairs?_pair hvalue hpair hblank hbrace rest (habsent hnames) depth fuel
    exact ⟨[entry], hread, .cons hentry .nil⟩
  | @next name value fields text pair before behind tail hvalue hpair hbefore hbehind htail ih =>
    rw [List.length_cons] at hfuel
    obtain ⟨fuel, rfl⟩ := Nat.exists_eq_add_one_of_ne_zero (Nat.ne_zero_of_lt hfuel)
    have hcomma : IsMark ',' := by decide
    let after := tail ++ (blank ++ '\x7d' :: rest)
    obtain ⟨entry, hentry, hread⟩ := readPairs?_pair hvalue hpair hbefore hcomma
      (behind ++ after) (habsent hnames) depth fuel
    have hnext : ((entries ++ [entry]).map (·.1.name) ++ fields.map Prod.fst).Nodup := by
      simpa [hentry.name] using hnames
    have hlength : fields.length ≤ fuel := by omega
    obtain ⟨new, hnew, hentries⟩ := ih hnext hlength
    refine ⟨entry :: new, ?_, .cons hentry hentries⟩
    have htext : pair ++ (before ++ ',' :: (behind ++ tail)) ++ (blank ++ '\x7d' :: rest) =
        pair ++ (before ++ ',' :: (behind ++ after)) := by
      simp only [after, List.append_assoc, List.cons_append]
    rw [htext, hread]
    show Toml.readPairs? _ (.ok (entries ++ [entry])) fuel (behind ++ after) = _
    rw [List.append_assoc, List.singleton_append] at hnew
    rw [readPairs?_blank hbehind]
    exact hnew

theorem TableText.exists_cons {fields : Fields} {text : List Char} (h : TableText fields text) :
    ∃ c cs, text = c :: cs ∧ IsVisible c := by
  cases h <;> exact ⟨'\x7b', _, rfl, by decide⟩

theorem TableText.readValue? {fields : Fields} {text : List Char} (h : TableText fields text)
    (hnames : (fields.map Prod.fst).Nodup) (rest : List Char) (depth : Nat) :
    ∃ entries, readValue? (depth + 1) (text ++ rest) =
        some (.ok (.table (text ++ rest).length .inline entries), rest) ∧
      List.Forall₂ FieldEntry fields entries := by
  have hread : ∀ {cs : List Char} {entries : Entries},
      readPairs? (Toml.readValue? depth) (.ok []) cs.length cs = some (.ok entries, rest) →
        Toml.readValue? (depth + 1) ('\x7b' :: cs) =
          some (.ok (.table ('\x7b' :: cs).length .inline entries), rest) := by
    intro cs entries hpairs
    simp only [Toml.readValue?, hpairs, Option.bind_eq_bind]
    rfl
  cases h with
  | @empty blank hblank =>
    have htext : '\x7b' :: (blank ++ ['\x7d']) ++ rest = '\x7b' :: (blank ++ '\x7d' :: rest) := by
      simp
    rw [htext]
    refine ⟨[], hread ?_, .nil⟩
    rw [readPairs?_blank hblank, List.length_append, List.length_cons, ← Nat.add_assoc, readPairs?,
      skipLines?_visible (by decide)]
    rfl
  | @fields _ before inner behind hbefore hfields hbehind =>
    have htext : '\x7b' :: (before ++ (inner ++ (behind ++ ['\x7d']))) ++ rest =
        '\x7b' :: (before ++ (inner ++ (behind ++ '\x7d' :: rest))) := by
      simp
    have hfuel : fields.length ≤ (before ++ (inner ++ (behind ++ '\x7d' :: rest))).length := by
      have hlength := hfields.length_le
      simp only [List.length_append]
      omega
    have hnil : (([] : Entries).map (·.1.name) ++ fields.map Prod.fst).Nodup := hnames
    obtain ⟨entries, hentries, hmeans⟩ := hfields.readPairs? hbehind rest hnil depth hfuel
    rw [htext]
    refine ⟨entries, hread ?_, hmeans⟩
    rw [readPairs?_blank hbefore, hentries, List.nil_append]

/-! ## Lines -/

/-- The texts of a line, from its first word to its last. -/
inductive LineText : Line → List Char → Prop where
  | inline {table : String} {fields : Fields} {value text : List Char}
    (hvalue : TableText fields value) (hpair : PairText [table] value text) :
    LineText (.root (.inline table fields)) text
  | dotted {table name : String} {value : Scalar} {scalar text : List Char}
    (hvalue : ScalarText value scalar) (hpair : PairText [table, name] scalar text) :
    LineText (.root (.dotted table name value)) text
  | header {table : String} {before key behind : List Char} (hbefore : IsBlank before)
    (hkey : KeyText table key) (hbehind : IsBlank behind) :
    LineText (.header table) ('[' :: (before ++ (key ++ (behind ++ [']']))))
  | field {name : String} {value : Scalar} {scalar text : List Char}
    (hvalue : ScalarText value scalar) (hpair : PairText [name] scalar text) :
    LineText (.field name value) text

/-- No name stands twice in the inline table of a line. -/
def Line.Distinct : Line → Prop
  | .root (.inline _ fields) => (fields.map Prod.fst).Nodup
  | _ => True

theorem LineText.exists_cons {line : Line} {text : List Char} (h : LineText line text) :
    ∃ c cs, text = c :: cs ∧ IsVisible c ∧ c ≠ '\ufeff' := by
  have hstart : ∀ {text : List Char}, StartsWord text →
      ∃ c cs, text = c :: cs ∧ IsVisible c ∧ c ≠ '\ufeff' := by
    intro text hword
    obtain ⟨c, cs, rfl, hvisible⟩ := hword.isVisible
    obtain ⟨_, _, heq, hc⟩ := hword
    cases heq
    refine ⟨c, cs, rfl, hvisible, ?_⟩
    rintro rfl
    rcases hc with hc | hc | hc <;> cases hc
  cases h with
  | inline _ hpair | dotted _ hpair | field _ hpair => exact hstart hpair.startsWord
  | header => exact ⟨'[', _, rfl, by decide, by decide⟩

/-- A pair on a line of its own, whose value is read up to its end. -/
theorem PairText.readStatement? {names : List String} {value text rest : List Char} {node : Node}
    (h : PairText names value text) (hdepth : names.length ≤ maxDepth)
    (hstart : ∃ c cs, value = c :: cs ∧ IsVisible c)
    (hvalue : readValue? maxDepth (value ++ rest) = some (.ok node, rest)) :
    ∃ front last, readStatement? (text ++ rest) = some (.pair (.ok ⟨front, last, node⟩), rest) ∧
      front.map Key.name ++ [last.name] = names := by
  have hline : readLineValue? (value ++ rest) = some (.ok node, rest) := by
    rw [readLineValue?, hvalue]
    rfl
  obtain ⟨front, last, hread, hnames⟩ := h.readPair? hdepth skipsBlank_skipSpaces hstart hline
  refine ⟨front, last, ?_, hnames⟩
  obtain ⟨c, cs, rfl, hc⟩ := h.startsWord
  rw [List.cons_append] at hread ⊢
  rw [Toml.readStatement?, hread]
  · rfl
  all_goals
    intro rest heq
    rw [List.cons.injEq] at heq
    obtain ⟨rfl, -⟩ := heq
    rcases hc with hc | hc | hc <;> cases hc

theorem readStatement?_header {table : String} {before key behind : List Char}
    (hbefore : IsBlank before) (hkey : KeyText table key) (hbehind : IsBlank behind)
    (rest : List Char) :
    ∃ statement, readStatement? ('[' :: (before ++ (key ++ (behind ++ [']']))) ++ rest) =
      some (statement, rest) ∧ (Line.header table).Says statement := by
  let cs := before ++ (key ++ (behind ++ ']' :: rest))
  have htext : '[' :: (before ++ (key ++ (behind ++ [']']))) ++ rest = '[' :: cs := by simp [cs]
  have hskip : skipSpaces cs = key ++ (behind ++ ']' :: rest) := by
    obtain ⟨c, tail, rfl, hc⟩ := hkey.startsWord.isVisible
    rw [skipSpaces_append hbefore]
    exact skipSpaces_cons hc.1 _
  have hpath : PathText [table] key := .last hkey
  have hbracket : IsMark ']' := by decide
  have hfuel : [table].length ≤ cs.length + 1 := by simp
  obtain ⟨path, front, last, hsplit, hfront, hlast, hnames⟩ :=
    hpath.splitPath hbehind hbracket rest hfuel
  obtain ⟨rfl, rfl⟩ := names_singleton hnames
  have hkeys : path.keys = .ok ([], last) := by
    rw [KeyPath.keys, hfront, hlast]
    rfl
  have hheader : ∀ mark, readHeader? mark false cs = some (.ok ⟨mark, false, [], last⟩, rest) := by
    intro mark
    simp only [readHeader?, hskip, hsplit, hkeys]
    rfl
  refine ⟨.header (.ok ⟨('[' :: cs).length, false, [], last⟩), ?_, .header⟩
  rw [htext, readStatement?, hheader]
  · rfl
  · -- the header of an array would have another bracket here
    intro tail heq
    rw [heq, skipSpaces_cons (by decide)] at hskip
    obtain ⟨c, ds, rfl, hc⟩ := hkey.startsWord
    cases hskip
    rcases hc with hc | hc | hc <;> cases hc

/-- A line is read as a statement that it says. -/
theorem LineText.readStatement? {line : Line} {text rest : List Char} (h : LineText line text)
    (hline : line.Distinct) (hrest : EndsScalar rest) :
    ∃ statement, readStatement? (text ++ rest) = some (statement, rest) ∧ line.Says statement := by
  cases h with
  | inline hvalue hpair =>
    obtain ⟨entries, hread, hentries⟩ := hvalue.readValue? hline rest (maxDepth - 1)
    obtain ⟨front, last, hstatement, hnames⟩ :=
      hpair.readStatement? (by simp [maxDepth]) hvalue.exists_cons hread
    obtain ⟨rfl, rfl⟩ := names_singleton hnames
    exact ⟨_, hstatement, .root (.inline hentries)⟩
  | dotted hvalue hpair =>
    obtain ⟨front, last, hstatement, hnames⟩ := hpair.readStatement? (by simp [maxDepth])
      hvalue.startsWord.isVisible (hvalue.readValue? hrest maxDepth)
    obtain ⟨above, rfl, rfl, rfl⟩ := names_pair hnames
    exact ⟨_, hstatement, .root .dotted⟩
  | header hbefore hkey hbehind => exact readStatement?_header hbefore hkey hbehind rest
  | field hvalue hpair =>
    obtain ⟨front, last, hstatement, hnames⟩ := hpair.readStatement? (by simp [maxDepth])
      hvalue.startsWord.isVisible (hvalue.readValue? hrest maxDepth)
    obtain ⟨rfl, rfl⟩ := names_singleton hnames
    exact ⟨_, hstatement, .field ⟨rfl, _, rfl⟩⟩

/-! ## Documents -/

/-- What may stand behind the last word of a line. -/
inductive TailText : List Char → Prop where
  | blank {blank : List Char} (hblank : IsBlank blank) : TailText blank
  | comment {blank comment : List Char} (hblank : IsBlank blank)
    (hcomment : ∀ c ∈ comment, isCommentChar c = true) : TailText (blank ++ '#' :: comment)

inductive NewlineText : List Char → Prop where
  | lineFeed : NewlineText ['\n']
  | carriageReturn : NewlineText ['\r', '\n']

/-- A row of a text holds a line or none. -/
inductive RowText : Option Line → List Char → Prop where
  | empty {tail : List Char} (htail : TailText tail) : RowText none tail
  | line {line : Line} {blank text tail : List Char} (hblank : IsBlank blank)
    (hline : LineText line text) (htail : TailText tail) :
    RowText (some line) (blank ++ (text ++ tail))

/-- The texts of a list of lines. The last row may have no line break. -/
inductive DocumentText : List Line → List Char → Prop where
  | last {row : Option Line} {text : List Char} (hrow : RowText row text) :
    DocumentText row.toList text
  | next {row : Option Line} {lines : List Line} {text newline rest : List Char}
    (hrow : RowText row text) (hnewline : NewlineText newline) (hrest : DocumentText lines rest) :
    DocumentText (row.toList ++ lines) (text ++ (newline ++ rest))

/-- What stands behind a row, and what is below it. -/
inductive Below : List Char → List Char → Prop where
  | nothing : Below [] []
  | newline {newline rest : List Char} (hnewline : NewlineText newline) :
    Below (newline ++ rest) rest

theorem exists_documentText {lines : List Line} (h : ∀ line ∈ lines, ∃ text, LineText line text) :
    ∃ text, DocumentText lines text := by
  have hnothing : TailText [] := .blank isBlank_nil
  induction lines with
  | nil => exact ⟨[], .last (.empty hnothing)⟩
  | cons line lines ih =>
    rw [List.forall_mem_cons] at h
    obtain ⟨⟨text, htext⟩, h⟩ := h
    obtain ⟨rest, hrest⟩ := ih h
    exact ⟨_, .next (.line isBlank_nil htext hnothing) .lineFeed hrest⟩

theorem Below.skipLines? {after rest : List Char} (h : Below after rest) (inComment : Bool) :
    skipLines? inComment after = skipLines? false rest := by
  cases h with
  | nothing => simp [Toml.skipLines?]
  | newline hnewline =>
    cases hnewline with
    | lineFeed => rw [List.singleton_append, Toml.skipLines?]
    | carriageReturn => rw [List.cons_append, List.singleton_append, Toml.skipLines?]

theorem TailText.skipLines? {tail after rest : List Char} (h : TailText tail)
    (hafter : Below after rest) : skipLines? false (tail ++ after) = skipLines? false rest := by
  cases h with
  | blank hblank => rw [skipLines?_blank hblank, hafter.skipLines?]
  | @comment blank comment hblank hcomment =>
    rw [List.append_assoc, skipLines?_blank hblank, List.cons_append, Toml.skipLines?,
      if_neg (by decide), if_neg (by decide), if_pos rfl, skipLines?_comment hcomment,
      hafter.skipLines?]
    all_goals
      intros
      contradiction

/-- Behind a statement a line ends. -/
theorem TailText.skipSpaces {tail after rest : List Char} (h : TailText tail)
    (hafter : Below after rest) :
    lineEnd? (tail ++ after) = some (skipSpaces (tail ++ after)) ∧ EndsScalar (tail ++ after) := by
  cases h with
  | blank hblank =>
    rw [lineEnd?, EndsScalar, skipSpaces_append hblank]
    cases hafter with
    | nothing =>
      refine ⟨rfl, fun c hc => ?_⟩
      cases hc
    | newline hnewline =>
      cases hnewline with
      | lineFeed | carriageReturn =>
        refine ⟨rfl, fun c hc => ?_⟩
        cases hc
        exact ⟨rfl, by decide⟩
  | comment hblank =>
    rw [lineEnd?, EndsScalar, List.append_assoc, skipSpaces_append hblank]
    refine ⟨rfl, fun c hc => ?_⟩
    cases hc
    exact ⟨rfl, by decide⟩

theorem readStatements?_congr {cs ds : List Char} (h : skipLines? false cs = skipLines? false ds)
    (fuel : Nat) : readStatements? fuel cs = readStatements? fuel ds := by
  cases fuel with
  | zero => rfl
  | succ fuel => rw [readStatements?, readStatements?, h]

/-- What is read from the rows below a row is read below the statement of the row. -/
theorem RowText.readStatements? {row : Option Line} {lines : List Line}
    {text after rest : List Char} (h : RowText row text) (hrow : ∀ line ∈ row, line.Distinct)
    (hafter : Below after rest) (hrest : ∀ fuel, rest.length < fuel → ∃ statements,
      readStatements? fuel rest = some statements ∧ List.Forall₂ Line.Says lines statements)
    {fuel : Nat} (hfuel : (text ++ after).length < fuel) :
    ∃ statements, readStatements? fuel (text ++ after) = some statements ∧
      List.Forall₂ Line.Says (row.toList ++ lines) statements := by
  have hlength : rest.length ≤ after.length := by
    cases hafter with
    | nothing => exact Nat.le_refl 0
    | newline =>
      rw [List.length_append]
      omega
  cases h with
  | empty htail =>
    rw [readStatements?_congr (htail.skipLines? hafter)]
    refine hrest fuel ?_
    rw [List.length_append] at hfuel
    omega
  | @line line blank word tail hblank hline htail =>
    obtain ⟨hend, hscalar⟩ := htail.skipSpaces hafter
    obtain ⟨statement, hstatement, hmeans⟩ := hline.readStatement? (hrow line rfl) hscalar
    obtain ⟨c, cs, rfl, hc, -⟩ := hline.exists_cons
    simp only [List.length_append, List.length_cons] at hfuel
    obtain ⟨fuel, rfl⟩ := Nat.exists_eq_add_one_of_ne_zero (Nat.ne_zero_of_lt hfuel)
    obtain ⟨statements, hstatements, hall⟩ := hrest fuel (by omega)
    have hbelow :
        Toml.readStatements? fuel (Toml.skipSpaces (tail ++ after)) = some statements := by
      rw [← hstatements]
      refine readStatements?_congr ?_ fuel
      rw [skipLines?_skipSpaces, htail.skipLines? hafter]
    have hskip : Toml.skipLines? false (blank ++ (c :: cs ++ tail) ++ after) =
        some (c :: cs ++ (tail ++ after)) := by
      rw [List.append_assoc, skipLines?_blank hblank, List.append_assoc]
      exact skipLines?_visible hc _
    refine ⟨statement :: statements, ?_, .cons hmeans hall⟩
    rw [Toml.readStatements?, hskip]
    simp only [Option.bind_eq_bind, Option.bind_some, List.cons_append] at hstatement ⊢
    rw [hstatement, Option.bind_some, hend, Option.bind_some, hbelow, Option.bind_some]
    rfl

theorem DocumentText.readStatements? {lines : List Line} {text : List Char}
    (h : DocumentText lines text) (hlines : ∀ line ∈ lines, line.Distinct) {fuel : Nat}
    (hfuel : text.length < fuel) :
    ∃ statements, readStatements? fuel text = some statements ∧
      List.Forall₂ Line.Says lines statements := by
  induction h generalizing fuel with
  | @last row text hrow =>
    have hnil : ∀ fuel, ([] : List Char).length < fuel → ∃ statements,
        Toml.readStatements? fuel [] = some statements ∧ List.Forall₂ Line.Says [] statements := by
      intro fuel hfuel
      obtain ⟨fuel, rfl⟩ := Nat.exists_eq_add_one_of_ne_zero (Nat.ne_zero_of_lt hfuel)
      exact ⟨[], rfl, .nil⟩
    have hdistinct : ∀ line ∈ row, line.Distinct := fun line hline =>
      hlines line (Option.mem_toList.2 hline)
    rw [← List.append_nil text] at hfuel ⊢
    rw [← List.append_nil row.toList]
    exact hrow.readStatements? hdistinct .nothing hnil hfuel
  | @next row lines text newline rest hrow hnewline _ ih =>
    have hdistinct : ∀ line ∈ row, line.Distinct := fun line hline =>
      hlines line (List.mem_append_left _ (Option.mem_toList.2 hline))
    have hrest : ∀ fuel, rest.length < fuel → ∃ statements,
        Toml.readStatements? fuel rest = some statements ∧
          List.Forall₂ Line.Says lines statements := fun fuel hfuel =>
      ih (fun line hline => hlines line (List.mem_append_right _ hline)) hfuel
    exact hrow.readStatements? hdistinct (.newline hnewline) hrest hfuel

theorem head?_blank {blank : List Char} (hblank : IsBlank blank) {cs : List Char}
    (hcs : cs.head? ≠ some '\ufeff') : (blank ++ cs).head? ≠ some '\ufeff' := by
  cases blank with
  | nil => exact hcs
  | cons c blank =>
    rintro ⟨⟩
    exact absurd (hblank _ List.mem_cons_self) (by decide)

/-- A row begins with a space, a comment or a line, if not with its line break. -/
theorem RowText.head? {row : Option Line} {text after rest : List Char} (h : RowText row text)
    (hafter : Below after rest) : (text ++ after).head? ≠ some '\ufeff' := by
  have hbelow : after.head? ≠ some '\ufeff' := by
    cases hafter with
    | nothing => nofun
    | newline hnewline => cases hnewline <;> (rintro ⟨⟩)
  cases h with
  | empty htail =>
    cases htail with
    | blank hblank => exact head?_blank hblank hbelow
    | comment hblank =>
      rw [List.append_assoc]
      exact head?_blank hblank (by rintro ⟨⟩)
  | line hblank hline _ =>
    obtain ⟨c, cs, rfl, -, hc⟩ := hline.exists_cons
    rw [List.append_assoc]
    refine head?_blank hblank ?_
    rintro ⟨⟩
    exact hc rfl

theorem DocumentText.skipByteOrderMark {lines : List Line} {text : List Char}
    (h : DocumentText lines text) : skipByteOrderMark text = text := by
  have hhead : text.head? ≠ some '\ufeff' := by
    cases h with
    | last hrow =>
      rw [← List.append_nil text]
      exact hrow.head? .nothing
    | next hrow hnewline _ => exact hrow.head? (.newline hnewline)
  unfold Toml.skipByteOrderMark
  split
  · exact absurd rfl hhead
  · rfl

/-- A text of lines is read as statements that they say. -/
theorem DocumentText.read {lines : List Line} {text : List Char} (h : DocumentText lines text)
    (hlines : ∀ line ∈ lines, line.Distinct) :
    ∃ statements, Toml.read text = Entries.ofStatements statements ∧
      List.Forall₂ Line.Says lines statements := by
  obtain ⟨statements, hread, hstatements⟩ := h.readStatements? hlines (Nat.lt_succ_self text.length)
  refine ⟨statements, ?_, hstatements⟩
  simp only [Toml.read, h.skipByteOrderMark, hread]

/-- The tables of a text come together from any arrangement and layout of their lines. -/
theorem DocumentText.read_of_arranges {tables sections order : List (String × Fields)}
    {root lines : List RootLine} {text : List Char}
    (h : DocumentText (lines.map .root ++ order.flatMap headed) text)
    (harranges : Arranges tables root sections) (hnames : (tables.map Prod.fst).Nodup)
    (hfields : ∀ table ∈ tables, (table.2.map Prod.fst).Nodup) (hlines : lines.Perm root)
    (horder : order.Perm sections) :
    ∃ entries, Toml.read text = .ok entries ∧ entries.AreTables tables := by
  have hdistinct : ∀ line ∈ lines.map .root ++ order.flatMap headed, line.Distinct := by
    intro line hline
    rcases List.mem_append.1 hline with hline | hline
    · obtain ⟨rootLine, hroot, rfl⟩ := List.mem_map.1 hline
      cases rootLine with
      | inline table fields =>
        obtain ⟨given, hgiven, hperm⟩ := harranges.of_inline (hlines.mem_iff.1 hroot)
        exact (hperm.map Prod.fst).nodup_iff.2 (hfields _ hgiven)
      | dotted => trivial
    · obtain ⟨table, -, hline⟩ := List.mem_flatMap.1 hline
      rcases List.mem_cons.1 hline with rfl | hline
      · trivial
      · obtain ⟨field, -, rfl⟩ := List.mem_map.1 hline
        trivial
  obtain ⟨statements, hread, hstatements⟩ := h.read hdistinct
  obtain ⟨entries, hentries, htables⟩ :=
    Entries.ofStatements_of_arranges harranges hnames hfields hlines horder hstatements
  exact ⟨entries, hread.trans hentries, htables⟩

end Countoff.Toml
