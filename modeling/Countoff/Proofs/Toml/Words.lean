import Countoff.Toml.Values
import Mathlib.Data.List.TakeDrop
import Mathlib.Data.List.TakeWhile

/-!
# Spellings of strings and keys

The texts that may stand for a string (`StringText`) and for a key (`KeyText`). In a basic string
each character stands for itself, behind a backslash, or by the digits of its code point, and there
is such a text for every string (`exists_stringText`). A key is bare or between quotes of either
kind. Whichever was chosen, the reader takes the text up to its end and finds in it what was written
(`StringText.splitString?`, `StringText.stringOf?`, `KeyText.splitToken`, `KeyText.key`).
-/

namespace Countoff.Toml

/-! ## Spaces -/

/-- Spaces within a line, or nothing. -/
def IsBlank (cs : List Char) : Prop :=
  ∀ c ∈ cs, isSpace c = true

theorem isBlank_nil : IsBlank [] :=
  nofun

theorem skipSpaces_append {blank : List Char} (hblank : IsBlank blank) (cs : List Char) :
    skipSpaces (blank ++ cs) = skipSpaces cs :=
  List.dropWhile_append_of_pos hblank

theorem skipSpaces_cons {c : Char} (hc : isSpace c = false) (cs : List Char) :
    skipSpaces (c :: cs) = c :: cs :=
  List.dropWhile_cons_of_neg (by simp [hc])

/-- A word in front of this text has its end there. -/
def EndsWord (rest : List Char) : Prop :=
  ∀ c ∈ rest.head?, isWordChar c = false

/-- A value in front of this text has its end there, spaces in between or not. -/
def EndsScalar (rest : List Char) : Prop :=
  ∀ c ∈ (skipSpaces rest).head?, isWordChar c = false ∧ c ≠ '.'

theorem EndsScalar.endsWord {rest : List Char} (h : EndsScalar rest) : EndsWord rest := by
  intro c hc
  obtain ⟨rest, rfl⟩ := List.head?_eq_some_iff.1 hc
  by_cases hspace : isSpace c = true
  · simp [isWordChar, hspace]
  · have hskip : skipSpaces (c :: rest) = c :: rest := skipSpaces_cons (by simpa using hspace) rest
    exact (h c (by rw [hskip]; rfl)).1

/-- The characters of words without quotes: those of bare keys, and the plus sign of numbers. -/
def isPlain (c : Char) : Bool :=
  isBare c || c = '+'

theorem ne_of_isPlain {c d : Char} (hc : isPlain c = true) (hd : isPlain d = false) : c ≠ d := by
  rintro rfl
  rw [hc] at hd
  cases hd

theorem isWordChar_of_isPlain {c : Char} (hc : isPlain c = true) : isWordChar c = true := by
  have hne : ∀ d, isPlain d = false → c ≠ d := fun d => ne_of_isPlain hc
  have hspace : isSpace c = false := by simp [isSpace, hne ' ' (by decide), hne '\t' (by decide)]
  simp [isWordChar, hspace, hne '\n' (by decide), hne '\r' (by decide), hne '#' (by decide),
    hne '=' (by decide), hne ',' (by decide), hne '.' (by decide), hne '[' (by decide),
    hne ']' (by decide), hne '\x7b' (by decide), hne '\x7d' (by decide)]

/-- A text begins with a word or a quote. -/
def StartsWord (text : List Char) : Prop :=
  ∃ c cs, text = c :: cs ∧ (isPlain c = true ∨ c = '"' ∨ c = '\x27')

/-! ## Strings -/

/-- The letters behind a backslash, and the characters that they stand for. -/
def escapes : List (Char × Char) :=
  [('b', '\x08'), ('t', '\t'), ('n', '\n'), ('f', '\x0c'), ('r', '\r'), ('"', '"'), ('\\', '\\')]

inductive HexDigit : Nat → Char → Prop where
  | lower {value : Nat} (hvalue : value < 16) : HexDigit value (Nat.digitChar value)
  | upper {value : Nat} (hvalue : value < 16) : HexDigit value (Nat.digitChar value).toUpper

/-- Hexadecimal digits of a number, the highest first. -/
inductive HexText (n : Nat) (digits : List Char) : Prop where
  | intro {values : List Nat} (hdigits : List.Forall₂ HexDigit values digits)
    (hvalue : n = values.foldl (fun n value => n * 16 + value) 0) : HexText n digits

/-- A character between double quotes. -/
inductive CharText (c : Char) : List Char → Prop where
  | itself (hc : isCommentChar c = true) (hquote : c ≠ '"') (hbackslash : c ≠ '\\') : CharText c [c]
  | short {letter : Char} (hletter : (letter, c) ∈ escapes) : CharText c ['\\', letter]
  | four {d₁ d₂ d₃ d₄ : Char} (hdigits : HexText c.toNat [d₁, d₂, d₃, d₄]) :
    CharText c ['\\', 'u', d₁, d₂, d₃, d₄]
  | eight {d₁ d₂ d₃ d₄ d₅ d₆ d₇ d₈ : Char}
    (hdigits : HexText c.toNat [d₁, d₂, d₃, d₄, d₅, d₆, d₇, d₈]) :
    CharText c ['\\', 'U', d₁, d₂, d₃, d₄, d₅, d₆, d₇, d₈]

/-- What stands between the quotes of a basic string. -/
inductive BodyText : List Char → List Char → Prop where
  | nil : BodyText [] []
  | cons {c : Char} {cs first rest : List Char} (hfirst : CharText c first)
    (hrest : BodyText cs rest) : BodyText (c :: cs) (first ++ rest)

inductive StringText (value : String) : List Char → Prop where
  | basic {body : List Char} (hbody : BodyText value.toList body) :
    StringText value ('"' :: (body ++ ['"']))

/-- Every character but a control, a quote and a backslash may stand for itself. -/
theorem BodyText.itself {cs : List Char}
    (h : ∀ c ∈ cs, isCommentChar c = true ∧ c ≠ '"' ∧ c ≠ '\\') : BodyText cs cs := by
  induction cs with
  | nil => exact .nil
  | cons c cs ih =>
    rw [List.forall_mem_cons] at h
    obtain ⟨⟨hc, hquote, hbackslash⟩, hcs⟩ := h
    exact .cons (.itself hc hquote hbackslash) (ih hcs)

theorem exists_charText (c : Char) : ∃ text, CharText c text := by
  by_cases hc : isCommentChar c = true
  · by_cases hquote : c = '"'
    · exact ⟨['\\', '"'], .short (by simp [escapes, hquote])⟩
    · by_cases hbackslash : c = '\\'
      · exact ⟨['\\', '\\'], .short (by simp [escapes, hbackslash])⟩
      · exact ⟨[c], .itself hc hquote hbackslash⟩
  · have hlow : c.toNat < 128 := by
      simp only [isCommentChar, Bool.or_eq_true, Bool.and_eq_true, decide_eq_true_eq] at hc
      omega
    have hdigits : List.Forall₂ HexDigit [0, 0, c.toNat / 16, c.toNat % 16] _ :=
      .cons (.lower (by omega)) (.cons (.lower (by omega)) (.cons (.lower (by omega))
        (.cons (.lower (by omega)) .nil)))
    have hvalue : c.toNat = ((0 * 16 + 0) * 16 + c.toNat / 16) * 16 + c.toNat % 16 := by omega
    exact ⟨_, .four (.intro hdigits (by simpa using hvalue))⟩

theorem exists_stringText (value : String) : ∃ text, StringText value text := by
  have hbody : ∀ cs, ∃ body, BodyText cs body := by
    intro cs
    induction cs with
    | nil => exact ⟨[], .nil⟩
    | cons c cs ih =>
      obtain ⟨first, hfirst⟩ := exists_charText c
      obtain ⟨rest, hrest⟩ := ih
      exact ⟨first ++ rest, .cons hfirst hrest⟩
  obtain ⟨body, hbody⟩ := hbody value.toList
  exact ⟨_, .basic hbody⟩

theorem HexDigit.hexDigit? {value : Nat} {d : Char} (h : HexDigit value d) :
    Text.hexDigit? d = some value := by
  have hall : ∀ value < 16, Text.hexDigit? (Nat.digitChar value) = some value ∧
      Text.hexDigit? (Nat.digitChar value).toUpper = some value := by decide
  cases h with
  | lower hvalue => exact (hall value hvalue).1
  | upper hvalue => exact (hall value hvalue).2

theorem HexText.codePoint? {c : Char} {digits : List Char} (h : HexText c.toNat digits) :
    codePoint? digits = some c := by
  have hfold : ∀ {values : List Nat} {digits : List Char}, List.Forall₂ HexDigit values digits →
      ∀ n, digits.foldlM (fun n d => (Text.hexDigit? d).map (n * 16 + ·)) n =
        some (values.foldl (fun n value => n * 16 + value) n) := by
    intro values digits hdigits
    induction hdigits with
    | nil => exact fun _ => rfl
    | cons hd _ ih =>
      intro n
      rw [List.foldlM_cons, hd.hexDigit?, List.foldl_cons, ← ih]
      rfl
  obtain ⟨hdigits, hvalue⟩ := h
  have hread : hexValue? digits = some c.toNat := by rw [hexValue?, hfold hdigits, hvalue]
  have hvalid : c.toNat.isValidChar := c.valid
  simp only [Toml.codePoint?, hread, Option.bind_eq_bind, Option.bind_some, if_pos hvalid,
    Char.ofNat_toNat]

theorem HexText.isHexDigit {n : Nat} {digits : List Char} (h : HexText n digits) :
    ∀ d ∈ digits, isHexDigit d = true := by
  obtain ⟨hdigits, -⟩ := h
  clear * - hdigits
  induction hdigits with
  | nil => nofun
  | cons hd _ ih =>
    refine List.forall_mem_cons.2 ⟨?_, ih⟩
    rw [Toml.isHexDigit, hd.hexDigit?, Option.isSome_some]

theorem shortEscape?_of_mem {letter c : Char} (h : (letter, c) ∈ escapes) :
    shortEscape? letter = some c := by
  simp only [escapes, List.mem_cons, Prod.mk.injEq, List.not_mem_nil, or_false] at h
  rcases h with ⟨rfl, rfl⟩ | ⟨rfl, rfl⟩ | ⟨rfl, rfl⟩ | ⟨rfl, rfl⟩ | ⟨rfl, rfl⟩ | ⟨rfl, rfl⟩ |
    ⟨rfl, rfl⟩ <;> rfl

theorem ne_of_mem_escapes {letter c : Char} (h : (letter, c) ∈ escapes) :
    letter ≠ 'x' ∧ letter ≠ 'u' ∧ letter ≠ 'U' ∧ letter ≠ '\n' := by
  have hread := shortEscape?_of_mem h
  refine ⟨?_, ?_, ?_, ?_⟩ <;> (rintro rfl; cases hread)

theorem CharText.readBasic {c : Char} {first : List Char} (h : CharText c first)
    (rest : List Char) : readBasic (first ++ rest) = andThen c (readBasic rest) := by
  cases h with
  | itself hc hquote hbackslash =>
    rw [List.singleton_append, Toml.readBasic, if_neg hquote, if_pos hc]
    all_goals
      intros
      contradiction
  | @short letter hletter =>
    obtain ⟨hx, hu, hU, -⟩ := ne_of_mem_escapes hletter
    rw [List.cons_append, List.singleton_append, Toml.readBasic, shortEscape?_of_mem hletter]
    · rfl
    all_goals
      intros
      contradiction
  | four hdigits | eight hdigits =>
    simp only [List.cons_append, List.nil_append, Toml.readBasic, hdigits.codePoint?,
      Option.bind_eq_bind, Option.bind_some]

theorem afterBasic_cons {c : Char} (hquote : c ≠ '"') (hline : c ≠ '\n') (hbackslash : c ≠ '\\')
    (cs : List Char) : afterBasic (c :: cs) = afterBasic cs := by
  rw [afterBasic, if_neg hquote, if_neg hline]
  all_goals
    intros
    contradiction

theorem afterBasic_append {word : List Char}
    (hword : ∀ c ∈ word, c ≠ '"' ∧ c ≠ '\n' ∧ c ≠ '\\') (rest : List Char) :
    afterBasic (word ++ rest) = afterBasic rest := by
  induction word with
  | nil => rfl
  | cons c word ih =>
    rw [List.forall_mem_cons] at hword
    obtain ⟨⟨hquote, hline, hbackslash⟩, hword⟩ := hword
    rw [List.cons_append, afterBasic_cons hquote hline hbackslash, ih hword]

/-- A backslash in front of a letter or a digit. -/
theorem afterBasic_escape {letter : Char} (hquote : letter ≠ '"') (hline : letter ≠ '\n')
    (hbackslash : letter ≠ '\\') (cs : List Char) :
    afterBasic ('\\' :: letter :: cs) = afterBasic cs := by
  rw [afterBasic, if_neg (by decide), if_neg (by decide),
    afterBasic_cons hquote hline hbackslash]
  all_goals
    intro rest _ heq
    cases heq
    contradiction

theorem CharText.afterBasic {c : Char} {first : List Char} (h : CharText c first)
    (rest : List Char) : afterBasic (first ++ rest) = afterBasic rest := by
  -- the digits of a code point are neither quotes nor line breaks
  have hplain : ∀ {digits : List Char} {n : Nat}, HexText n digits →
      ∀ d ∈ digits, d ≠ '"' ∧ d ≠ '\n' ∧ d ≠ '\\' := by
    intro digits n hdigits d hd
    have hhex := hdigits.isHexDigit d hd
    refine ⟨?_, ?_, ?_⟩ <;> (rintro rfl; cases hhex)
  cases h with
  | itself hc hquote hbackslash =>
    refine afterBasic_cons hquote ?_ hbackslash rest
    rintro rfl
    cases hc
  | @short letter hletter =>
    rw [List.cons_append, List.singleton_append]
    by_cases hbackslash : letter = '\\'
    · rw [hbackslash, Toml.afterBasic]
    by_cases hquote : letter = '"'
    · rw [hquote, Toml.afterBasic]
    · exact afterBasic_escape hquote (ne_of_mem_escapes hletter).2.2.2 hbackslash rest
  | four hdigits | eight hdigits =>
    exact (afterBasic_escape (by decide) (by decide) (by decide) _).trans
      (afterBasic_append (hplain hdigits) rest)

theorem BodyText.readBasic {cs body : List Char} (h : BodyText cs body) (rest : List Char) :
    readBasic (body ++ '"' :: rest) = some (cs, rest) := by
  induction h with
  | nil => simp [Toml.readBasic]
  | cons hfirst _ ih => rw [List.append_assoc, hfirst.readBasic, ih, andThen]

theorem BodyText.afterBasic {cs body : List Char} (h : BodyText cs body) (rest : List Char) :
    afterBasic (body ++ '"' :: rest) = rest := by
  induction h with
  | nil => simp [Toml.afterBasic]
  | cons hfirst _ ih => rw [List.append_assoc, hfirst.afterBasic, ih]

/-- What stands between the quotes does not begin with one. -/
theorem BodyText.eq_nil_or_cons {cs body : List Char} (h : BodyText cs body) :
    body = [] ∨ ∃ c rest, body = c :: rest ∧ c ≠ '"' := by
  cases h with
  | nil => exact .inl rfl
  | cons hfirst _ =>
    right
    cases hfirst with
    | itself _ hquote _ => exact ⟨_, _, rfl, hquote⟩
    | short | four | eight => exact ⟨_, _, rfl, by decide⟩

/-- A basic string in front of other text is not taken for one of several lines. -/
theorem BodyText.afterString? {cs body rest : List Char} (h : BodyText cs body)
    (hrest : EndsWord rest) : afterString? ('"' :: (body ++ '"' :: rest)) = some rest := by
  rw [Toml.afterString?, h.afterBasic]
  rintro tail heq
  rcases h.eq_nil_or_cons with rfl | ⟨c, body, rfl, hc⟩
  · cases heq
    exact absurd (hrest '"' rfl) (by decide)
  · rw [List.cons_append, List.cons.injEq] at heq
    exact hc heq.1

theorem splitString?_append {text rest : List Char} (h : afterString? (text ++ rest) = some rest) :
    splitString? (text ++ rest) = some (text, rest) := by
  rw [splitString?, h, Option.map_some, List.length_append, Nat.add_sub_cancel_right,
    List.take_left]

theorem StringText.splitString? {value : String} {text rest : List Char}
    (h : StringText value text) (hrest : EndsWord rest) :
    splitString? (text ++ rest) = some (text, rest) := by
  obtain ⟨hbody⟩ := h
  refine splitString?_append ?_
  rw [List.cons_append, List.append_assoc, List.singleton_append]
  exact hbody.afterString? hrest

theorem StringText.readLine? {value : String} {text : List Char} (h : StringText value text) :
    readLine? text = some (value.toList, []) := by
  obtain ⟨hbody⟩ := h
  exact hbody.readBasic []

theorem BodyText.readString? {cs body : List Char} (h : BodyText cs body) :
    readString? ('"' :: (body ++ ['"'])) = some (cs, []) := by
  rw [Toml.readString?]
  · exact h.readBasic []
  · rintro tail heq
    rcases h.eq_nil_or_cons with rfl | ⟨c, body, rfl, hc⟩
    · cases heq
    · rw [List.cons.injEq, List.cons_append, List.cons.injEq] at heq
      exact hc heq.2.1
  · rintro tail heq
    cases heq

theorem StringText.stringOf? {value : String} {text : List Char} (h : StringText value text) :
    stringOf? text = some (.string value) := by
  obtain ⟨hbody⟩ := h
  simp only [Toml.stringOf?, hbody.readString?, String.ofList_toList]

/-! ## Keys -/

/-- The texts that stand for a key. -/
inductive KeyText (name : String) : List Char → Prop where
  | bare (hne : name.toList ≠ []) (hbare : ∀ c ∈ name.toList, isBare c = true) :
    KeyText name name.toList
  | basic {text : List Char} (htext : StringText name text) : KeyText name text
  | literal (hname : ∀ c ∈ name.toList, isCommentChar c = true ∧ c ≠ '\x27') :
    KeyText name ('\x27' :: (name.toList ++ ['\x27']))

theorem readLiteral_append {name : List Char}
    (hname : ∀ c ∈ name, isCommentChar c = true ∧ c ≠ '\x27') (rest : List Char) :
    readLiteral (name ++ '\x27' :: rest) = some (name, rest) := by
  induction name with
  | nil => simp [readLiteral]
  | cons c name ih =>
    rw [List.forall_mem_cons] at hname
    obtain ⟨⟨hc, hquote⟩, hname⟩ := hname
    rw [List.cons_append, readLiteral, if_neg hquote, if_pos hc, ih hname, andThen]

theorem afterLiteral_append {name : List Char}
    (hname : ∀ c ∈ name, isCommentChar c = true ∧ c ≠ '\x27') (rest : List Char) :
    afterLiteral (name ++ '\x27' :: rest) = rest := by
  induction name with
  | nil => simp [afterLiteral]
  | cons c name ih =>
    rw [List.forall_mem_cons] at hname
    obtain ⟨⟨hc, hquote⟩, hname⟩ := hname
    have hline : c ≠ '\n' := by
      rintro rfl
      cases hc
    rw [List.cons_append, afterLiteral, if_neg hquote, if_neg hline, ih hname]

theorem afterString?_literal {name rest : List Char}
    (hname : ∀ c ∈ name, isCommentChar c = true ∧ c ≠ '\x27') (hrest : EndsWord rest) :
    afterString? ('\x27' :: (name ++ '\x27' :: rest)) = some rest := by
  rw [afterString?, afterLiteral_append hname]
  rintro tail heq
  cases name with
  | nil =>
    cases heq
    exact absurd (hrest '\x27' rfl) (by decide)
  | cons c name =>
    rw [List.cons_append, List.cons.injEq] at heq
    exact (hname c List.mem_cons_self).2 heq.1

/-- A text that does not begin with a quote is no string. -/
theorem splitString?_eq_none {c : Char} (hc : isPlain c = true) (cs : List Char) :
    splitString? (c :: cs) = none := by
  have hquote : c ≠ '"' := ne_of_isPlain hc (by decide)
  have hapostrophe : c ≠ '\x27' := ne_of_isPlain hc (by decide)
  rw [splitString?, afterString?]
  · rfl
  all_goals
    intro rest heq
    cases heq
    contradiction

theorem span_isWordChar {word rest : List Char} (hword : ∀ c ∈ word, isPlain c = true)
    (hrest : EndsWord rest) : (word ++ rest).span isWordChar = (word, rest) := by
  have hall : ∀ c ∈ word, isWordChar c = true := fun c hc => isWordChar_of_isPlain (hword c hc)
  rw [List.span_eq_takeWhile_dropWhile, List.takeWhile_append_of_pos hall,
    List.dropWhile_append_of_pos hall]
  cases rest with
  | nil => simp
  | cons c rest =>
    have hc : isWordChar c = false := hrest c rfl
    simp [hc]

theorem isPlain_of_isBare {c : Char} (hc : isBare c = true) : isPlain c = true := by
  simp [isPlain, hc]

theorem KeyText.splitToken {name : String} {text rest : List Char} (h : KeyText name text)
    (hrest : EndsWord rest) : splitToken (text ++ rest) = (text, rest) := by
  unfold Toml.splitToken
  cases h with
  | bare hne hbare =>
    have hplain : ∀ c ∈ name.toList, isPlain c = true := fun c hc => isPlain_of_isBare (hbare c hc)
    rw [span_isWordChar hplain hrest]
    obtain ⟨c, cs, htext⟩ := List.exists_cons_of_ne_nil hne
    rw [htext, List.cons_append, splitString?_eq_none (hplain c (by rw [htext]; simp)),
      Option.getD_none]
  | basic htext => rw [htext.splitString? hrest, Option.getD_some]
  | literal hname =>
    have hafter : afterString? ('\x27' :: (name.toList ++ ['\x27']) ++ rest) = some rest := by
      simpa using afterString?_literal hname hrest
    rw [splitString?_append hafter, Option.getD_some]

theorem KeyText.key {name : String} {text : List Char} (h : KeyText name text) (mark : Nat) :
    (KeyToken.mk text mark).key = .ok ⟨name, mark⟩ := by
  cases h with
  | bare hne hbare =>
    obtain ⟨c, cs, htext⟩ := List.exists_cons_of_ne_nil hne
    have hc : isPlain c = true := isPlain_of_isBare (hbare c (by rw [htext]; simp))
    have hline : readLine? name.toList = none := by
      have hquote : c ≠ '"' := ne_of_isPlain hc (by decide)
      have hapostrophe : c ≠ '\x27' := ne_of_isPlain hc (by decide)
      rw [htext, readLine?]
      all_goals
        intro rest heq
        cases heq
        contradiction
    have hall : name.toList.all isBare = true := List.all_eq_true.2 hbare
    have hempty : name.toList.isEmpty = false := by simp [htext]
    simp only [KeyToken.key, hline, hall, hempty, Bool.not_false, Bool.true_and, if_true,
      String.ofList_toList]
  | basic htext => simp only [KeyToken.key, htext.readLine?, String.ofList_toList]
  | literal hname =>
    have hline : readLine? ('\x27' :: (name.toList ++ ['\x27'])) = some (name.toList, []) :=
      readLiteral_append hname []
    simp only [KeyToken.key, hline, String.ofList_toList]

theorem KeyText.startsWord {name : String} {text : List Char} (h : KeyText name text) :
    StartsWord text := by
  cases h with
  | bare hne hbare =>
    obtain ⟨c, cs, htext⟩ := List.exists_cons_of_ne_nil hne
    refine ⟨c, cs, htext, .inl (isPlain_of_isBare (hbare c ?_))⟩
    rw [htext]
    exact List.mem_cons_self
  | basic htext =>
    cases htext
    exact ⟨'"', _, rfl, .inr (.inl rfl)⟩
  | literal => exact ⟨'\x27', _, rfl, .inr (.inr rfl)⟩

end Countoff.Toml
