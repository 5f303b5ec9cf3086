import Countoff.Proofs.Toml.Words
import Mathlib.Data.List.Basic

/-!
# Spellings of values

The texts that may stand for a value without parts (`ScalarText`): a basic string, a boolean, or a
decimal integer of 64 bits. A sign may stand in front of the digits of an integer and underscores
between them, but no zeros in front of other digits. The reader takes the text up to its end, where
spaces, a comment or a mark of the grammar may follow, and finds in it what was written
(`ScalarText.readScalar?`).
-/

namespace Countoff.Toml

/-! ## Integers -/

/-- Digits, and the same digits with single underscores between them. -/
inductive Grouped : List Char → List Char → Prop where
  | last {d : Char} (hd : d.isDigit = true) : Grouped [d] [d]
  | next {d : Char} {digits text : List Char} (hd : d.isDigit = true)
    (htext : Grouped digits text) : Grouped (d :: digits) (d :: text)
  | group {d : Char} {digits text : List Char} (hd : d.isDigit = true)
    (htext : Grouped digits text) : Grouped (d :: digits) (d :: '_' :: text)

/-- Decimal digits without leading zeros. -/
structure MagnitudeText (n : Nat) (text : List Char) : Prop where
  intro ::
  grouped : ∃ digits, Grouped digits text ∧ n = Nat.ofDigitChars 10 digits 0
  noLeadingZero : text.head? = some '0' → text = ['0']

/-- Decimal integers. -/
inductive IntegerText (n : Int) : List Char → Prop where
  | plain {text : List Char} {m : Nat} (htext : MagnitudeText m text) (hvalue : n = m) :
    IntegerText n text
  | plus {text : List Char} {m : Nat} (htext : MagnitudeText m text) (hvalue : n = m) :
    IntegerText n ('+' :: text)
  | minus {text : List Char} {m : Nat} (htext : MagnitudeText m text) (hvalue : n = -m) :
    IntegerText n ('-' :: text)

theorem Grouped.itself {digits : List Char} (hne : digits ≠ [])
    (h : ∀ d ∈ digits, d.isDigit = true) : Grouped digits digits := by
  induction digits with
  | nil => exact absurd rfl hne
  | cons d digits ih =>
    rw [List.forall_mem_cons] at h
    by_cases hdigits : digits = []
    · rw [hdigits]
      exact .last h.1
    · exact .next h.1 (ih hdigits h.2)

theorem eq_zero_of_head?_toDigits {n : Nat} (h : (Nat.toDigits 10 n).head? = some '0') : n = 0 := by
  induction n using Nat.strongRecOn with
  | ind n ih =>
    by_cases hsmall : n < 10
    · rw [Nat.toDigits_of_lt_base hsmall, List.head?_singleton, Option.some_inj] at h
      exact Nat.digitChar_eq_zero.1 h
    · rw [Nat.toDigits_of_base_le (by decide) (by omega),
        List.head?_append_of_ne_nil _ Nat.toDigits_ne_nil] at h
      have hless : n / 10 < n := by omega
      have hzero := ih (n / 10) hless h
      omega

theorem exists_integerText (n : Int) : ∃ text, IntegerText n text := by
  have hmagnitude : ∀ m : Nat, MagnitudeText m (Nat.toDigits 10 m) := by
    intro m
    refine ⟨⟨_, .itself Nat.toDigits_ne_nil fun d hd => ?_, ?_⟩, fun hzero => ?_⟩
    · exact Nat.isDigit_of_mem_toDigits (by decide) (by decide) hd
    · rw [Nat.ofDigitChars_toDigits (by decide) (by decide)]
    · rw [eq_zero_of_head?_toDigits hzero]
      rfl
  by_cases hn : 0 ≤ n
  · exact ⟨_, .plain (hmagnitude n.toNat) (by omega)⟩
  · exact ⟨_, .minus (hmagnitude (-n).toNat) (by omega)⟩

theorem isHexDigit_of_isDigit {d : Char} (hd : d.isDigit = true) : isHexDigit d = true := by
  have hrange : '0' ≤ d ∧ d ≤ '9' := by
    simpa [Char.isDigit, Char.le_def] using hd
  simp only [isHexDigit, Text.hexDigit?, if_pos hrange, Option.isSome_some]

namespace Grouped

variable {digits text : List Char}

theorem isDigit (h : Grouped digits text) : ∀ d ∈ digits, d.isDigit = true := by
  induction h with
  | last hd => simpa using hd
  | next hd _ ih | group hd _ ih => exact List.forall_mem_cons.2 ⟨hd, ih⟩

theorem mem (h : Grouped digits text) : ∀ c ∈ text, c.isDigit = true ∨ c = '_' := by
  induction h with
  | last hd => simpa using Or.inl hd
  | next hd _ ih => exact List.forall_mem_cons.2 ⟨.inl hd, ih⟩
  | group hd _ ih =>
    exact List.forall_mem_cons.2 ⟨.inl hd, List.forall_mem_cons.2 ⟨.inr rfl, ih⟩⟩

theorem head (h : Grouped digits text) : ∃ d rest, text = d :: rest ∧ d.isDigit = true := by
  cases h with
  | last hd | next hd _ | group hd _ => exact ⟨_, _, rfl, hd⟩

theorem ungroup? (h : Grouped digits text) (behindDigit : Bool) :
    ungroup? isHexDigit behindDigit text = some digits := by
  have hunderscore : ∀ d : Char, d.isDigit = true → d ≠ '_' := by
    rintro d hd rfl
    cases hd
  induction h generalizing behindDigit with
  | last hd => simp [Toml.ungroup?, hunderscore _ hd]
  | next hd _ ih =>
    rw [Toml.ungroup?, if_neg (hunderscore _ hd), ih]
    rfl
  | group hd htext ih =>
    -- the underscore has this digit in front of it and one behind it
    obtain ⟨next, rest, rfl, hnext⟩ := htext.head
    rw [Toml.ungroup?, if_neg (hunderscore _ hd), Toml.ungroup?, if_pos rfl,
      isHexDigit_of_isDigit hd, List.head?_cons, Option.any_some, isHexDigit_of_isDigit hnext,
      Bool.true_and, if_pos rfl, ih]
    rfl

/-- Behind its first digits a text goes on with an underscore, if at all. -/
theorem dropWhile (h : Grouped digits text) :
    text.dropWhile Char.isDigit = [] ∨
      ∃ rest, text.dropWhile Char.isDigit = '_' :: rest ∧
        ∀ c ∈ rest, c.isDigit = true ∨ c = '_' := by
  induction h with
  | last hd => simp [hd]
  | next hd _ ih => simpa [hd] using ih
  | group hd htext _ => exact .inr ⟨_, by simp [hd], htext.mem⟩

end Grouped

theorem int128?_toInt (n : Int64) : int128? n.toInt = some n.toInt := by
  have hlow := n.le_toInt
  have hhigh := n.toInt_lt
  have hmin : Int.pow 2 127 = 170141183460469231731687303715884105728 := rfl
  have hmax : Int.pow 2 128 = 340282366920938463463374607431768211456 := rfl
  rw [int128?, if_pos]
  omega

theorem readInteger?_of_magnitudeText {n : Nat} {text : List Char} (h : MagnitudeText n text)
    (negative : Bool) {m : Int} (hm : (if negative then -(n : Int) else n) = m)
    (hrange : int128? m = some m) : readInteger? negative text = some (.integer (some m)) := by
  obtain ⟨⟨digits, hgrouped, rfl⟩, hzero⟩ := h
  have hleading : hasLeadingZero text = false := by
    by_contra htext
    unfold hasLeadingZero at htext
    split at htext
    · cases hzero rfl
    · exact htext rfl
  have hdigits : digits.all Char.isDigit = true := List.all_eq_true.2 hgrouped.isDigit
  have hvalue : decimalValue? negative digits = some m := by
    rw [decimalValue?, if_pos hdigits, ← hrange, ← hm]
  rw [readInteger?, hleading, if_neg (by decide), hgrouped.ungroup?, Option.map_some, hvalue]

theorem MagnitudeText.mem {n : Nat} {text : List Char} (h : MagnitudeText n text) :
    ∀ c ∈ text, c.isDigit = true ∨ c = '_' := by
  obtain ⟨digits, hgrouped, -⟩ := h.grouped
  exact hgrouped.mem

/-- No character but digits and underscores is in a magnitude. -/
theorem MagnitudeText.not_mem {n : Nat} {text : List Char} (h : MagnitudeText n text) {c : Char}
    (hdigit : c.isDigit = false) (hunderscore : c ≠ '_') : c ∉ text := by
  intro hc
  rcases h.mem c hc with hc | hc
  · rw [hdigit] at hc
    cases hc
  · exact hunderscore hc

theorem readDecimal?_of_magnitudeText {n : Nat} {text : List Char} (h : MagnitudeText n text)
    (negative : Bool) {m : Int} (hm : (if negative then -(n : Int) else n) = m)
    (hrange : int128? m = some m) : readDecimal? negative text = some (.integer (some m)) := by
  have hinf : text ≠ "inf".toList := by
    rintro rfl
    exact h.not_mem (c := 'i') rfl (by decide) (by decide)
  have hnan : text ≠ "nan".toList := by
    rintro rfl
    exact h.not_mem (c := 'n') rfl (by decide) (by decide)
  have hread := readInteger?_of_magnitudeText h negative hm hrange
  obtain ⟨digits, hgrouped, -⟩ := h.grouped
  rw [readDecimal?, if_neg hinf, if_neg hnan]
  rcases hgrouped.dropWhile with hrest | ⟨rest, hrest, hmem⟩
  · obtain ⟨d, tail, rfl, -⟩ := hgrouped.head
    simpa only [hrest, List.isEmpty_cons, Bool.false_eq_true, if_false] using hread
  · have hmark : ∀ c ∈ '_' :: rest, c ≠ ' ' ∧ isFloatMark c = false := by
      intro c hc
      have hdigit : c.isDigit = true ∨ c = '_' := by
        rcases List.mem_cons.1 hc with rfl | hc
        · exact .inr rfl
        · exact hmem c hc
      rcases hdigit with hdigit | rfl
      · have hne : ∀ d : Char, d.isDigit = false → c ≠ d := by
          rintro d hd rfl
          rw [hdigit] at hd
          cases hd
        simp [isFloatMark, hne ' ' rfl, hne '.' rfl, hne 'e' rfl, hne 'E' rfl]
      · decide
    have hspace : ' ' ∉ '_' :: rest := fun hc => (hmark ' ' hc).1 rfl
    have hfloat : ('_' :: rest).any isFloatMark = false :=
      List.any_eq_false.2 fun c hc => by simp [(hmark c hc).2]
    rw [hrest]
    simp only [hspace, hfloat]
    simpa using hread

/-- Dates have a hyphen behind other characters, and times have colons. -/
theorem isMoment_eq_false {text : List Char} (hhyphen : '-' ∉ text.tail) (hcolon : ':' ∉ text) :
    Moment.isMoment text = false := by
  have hdate : Moment.readDate text = none := by
    unfold Moment.readDate
    split
    · simp at hhyphen
    · rfl
  have hminutes : Moment.readMinutes text = none := by
    unfold Moment.readMinutes
    split
    · simp at hcolon
    · rfl
  simp [Moment.isMoment, hdate, Moment.readTime, hminutes]

theorem readBased?_of_magnitudeText {n : Nat} {text : List Char} (h : MagnitudeText n text) :
    readBased? text = none := by
  unfold readBased?
  split
  · cases h.noLeadingZero rfl
  · rfl

namespace IntegerText

variable {n : Int} {text : List Char}

theorem mem (h : IntegerText n text) :
    ∀ c ∈ text, c.isDigit = true ∨ c = '_' ∨ c = '+' ∨ c = '-' := by
  have hlift : ∀ {c : Char}, c.isDigit = true ∨ c = '_' →
      c.isDigit = true ∨ c = '_' ∨ c = '+' ∨ c = '-' := fun hc => hc.imp_right .inl
  cases h with
  | plain htext => exact fun c hc => hlift (htext.mem c hc)
  | plus htext =>
    exact List.forall_mem_cons.2 ⟨.inr (.inr (.inl rfl)), fun c hc => hlift (htext.mem c hc)⟩
  | minus htext =>
    exact List.forall_mem_cons.2 ⟨.inr (.inr (.inr rfl)), fun c hc => hlift (htext.mem c hc)⟩

theorem isPlain (h : IntegerText n text) : ∀ c ∈ text, isPlain c = true := by
  intro c hc
  rcases h.mem c hc with hdigit | rfl | rfl | rfl
  · simp [Toml.isPlain, isBare, Char.isAlphanum, hdigit]
  all_goals decide

theorem ne_nil (h : IntegerText n text) : text ≠ [] := by
  cases h with
  | plain htext =>
    obtain ⟨digits, hgrouped, -⟩ := htext.grouped
    obtain ⟨d, rest, rfl, -⟩ := hgrouped.head
    exact List.cons_ne_nil d rest
  | plus | minus => exact List.cons_ne_nil _ _

theorem isMoment (h : IntegerText n text) : Moment.isMoment text = false := by
  refine isMoment_eq_false ?_ ?_
  · intro hhyphen
    cases h with
    | plain htext => exact htext.not_mem rfl (by decide) (List.mem_of_mem_tail hhyphen)
    | plus htext | minus htext => exact htext.not_mem rfl (by decide) hhyphen
  · intro hcolon
    rcases h.mem ':' hcolon with hc | hc | hc | hc <;> cases hc

theorem readNumber? (h : IntegerText n text) (hrange : int128? n = some n) :
    readNumber? text = some (.integer (some n)) := by
  cases h with
  | plus htext hvalue => exact readDecimal?_of_magnitudeText htext false hvalue.symm hrange
  | minus htext hvalue => exact readDecimal?_of_magnitudeText htext true hvalue.symm hrange
  | plain htext hvalue =>
    rw [Toml.readNumber?, readBased?_of_magnitudeText htext,
      readDecimal?_of_magnitudeText htext false hvalue.symm hrange]
    · rfl
    all_goals
      rintro rest rfl
      exact htext.not_mem rfl (by decide) List.mem_cons_self

theorem ofText? (h : IntegerText n text) (hrange : int128? n = some n) :
    Scalar.ofText? text = some (.integer (some n)) := by
  have htrue : text ≠ "true".toList := by
    rintro rfl
    exact absurd (h.mem 't' (by decide)) (by decide)
  have hfalse : text ≠ "false".toList := by
    rintro rfl
    exact absurd (h.mem 'f' (by decide)) (by decide)
  rw [Scalar.ofText?, if_neg htrue, if_neg hfalse, h.isMoment, if_neg (by decide),
    h.readNumber? hrange]

end IntegerText

/-! ## Values without parts -/

/-- The texts that stand for a string, a 64-bit integer or a boolean. -/
inductive ScalarText : Scalar → List Char → Prop where
  | string {value : String} {text : List Char} (htext : StringText value text) :
    ScalarText (.string value) text
  | integer {n : Int64} {text : List Char} (htext : IntegerText n.toInt text) :
    ScalarText (.integer (some n.toInt)) text
  | boolean (b : Bool) : ScalarText (.boolean b) (toString b).toList

theorem splitScalar_of_endsScalar {rest : List Char} (h : EndsScalar rest) (fresh : Bool) :
    splitScalar fresh rest = ([], rest) := by
  induction rest generalizing fresh with
  | nil => rfl
  | cons c rest ih =>
    have hword : isWordChar c = false := h.endsWord c rfl
    have hquote : c ≠ '"' ∧ c ≠ '\x27' := by constructor <;> (rintro rfl; cases hword)
    rw [splitScalar, hword]
    by_cases hspace : isSpace c = true
    · have hpoint : c ≠ '.' := by
        rintro rfl
        cases hspace
      have hrest : EndsScalar rest := by
        have hskip : skipSpaces (c :: rest) = skipSpaces rest := List.dropWhile_cons_of_pos hspace
        rwa [EndsScalar, hskip] at h
      simp [hquote, hpoint, hspace, ih hrest]
    · have hskip : skipSpaces (c :: rest) = c :: rest :=
        skipSpaces_cons (by simpa using hspace) rest
      have hpoint : c ≠ '.' := (h c (by rw [hskip]; rfl)).2
      simp [hquote, hpoint, hspace]

theorem splitScalar_append {word rest : List Char} (hword : ∀ c ∈ word, isPlain c = true)
    (hrest : EndsScalar rest) (fresh : Bool) : splitScalar fresh (word ++ rest) = (word, rest) := by
  induction word generalizing fresh with
  | nil => exact splitScalar_of_endsScalar hrest fresh
  | cons c word ih =>
    rw [List.forall_mem_cons] at hword
    obtain ⟨hc, hword⟩ := hword
    have hquote : c ≠ '"' := ne_of_isPlain hc (by decide)
    have hapostrophe : c ≠ '\x27' := ne_of_isPlain hc (by decide)
    rw [List.cons_append, splitScalar, isWordChar_of_isPlain hc, ih hword]
    simp [hquote, hapostrophe]

theorem readScalar?_append {text rest : List Char} {value : Scalar} (hne : text ≠ [])
    (htext : ∀ c ∈ text, isPlain c = true) (hvalue : Scalar.ofText? text = some value)
    (hrest : EndsScalar rest) :
    readScalar? (text ++ rest) = some (.ok (.scalar (text ++ rest).length value), rest) := by
  obtain ⟨c, cs, rfl⟩ := List.exists_cons_of_ne_nil hne
  have hstring : splitString? (c :: cs ++ rest) = none :=
    splitString?_eq_none (htext c List.mem_cons_self) _
  simp only [readScalar?, hstring, splitScalar_append htext hrest, hvalue]

namespace ScalarText

variable {value : Scalar} {text : List Char}

/-- What stands for a value is read as that value, up to its end. -/
theorem readScalar? (h : ScalarText value text) {rest : List Char} (hrest : EndsScalar rest) :
    readScalar? (text ++ rest) = some (.ok (.scalar (text ++ rest).length value), rest) := by
  cases h with
  | string htext =>
    simp only [Toml.readScalar?, htext.splitString? hrest.endsWord, htext.stringOf?]
  | @integer n _ htext =>
    have hvalue := htext.ofText? (int128?_toInt n)
    exact readScalar?_append htext.ne_nil htext.isPlain hvalue hrest
  | boolean b =>
    cases b with
    | false => exact readScalar?_append (by decide) (List.all_eq_true.1 rfl) rfl hrest
    | true => exact readScalar?_append (by decide) (List.all_eq_true.1 rfl) rfl hrest

theorem startsWord (h : ScalarText value text) : StartsWord text := by
  cases h with
  | string htext =>
    cases htext
    exact ⟨'"', _, rfl, .inr (.inl rfl)⟩
  | integer htext =>
    obtain ⟨c, cs, rfl⟩ := List.exists_cons_of_ne_nil htext.ne_nil
    exact ⟨c, cs, rfl, .inl (htext.isPlain c List.mem_cons_self)⟩
  | boolean b =>
    cases b with
    | false => exact ⟨'f', _, rfl, .inl rfl⟩
    | true => exact ⟨'t', _, rfl, .inl rfl⟩

end ScalarText

end Countoff.Toml
