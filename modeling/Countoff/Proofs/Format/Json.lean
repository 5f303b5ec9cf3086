import Countoff.Format
import Countoff.Proofs.Text.Bytes

/-!
# Arrays of strings are read back

The reader of JSON undoes the writer, whatever the strings hold. Each of the three kinds of escape
is read as the character that it was written for, with any text behind it (`readString_escape`);
strings, elements and the array follow by induction. The reader counts down from the length of the
text, which is more than the number of strings in it (`length_lt_length_elements`).

No escape has a character below the space, so an array stands on one line
(`space_le_of_mem_array`).
-/

namespace Countoff

namespace Json

/-! ## Strings -/

/-- A character in front of a string that has been read. -/
def pushChar (c : Char) (read : List Char × List Char) : List Char × List Char :=
  (c :: read.1, read.2)

theorem hexDigit?_digitChar : ∀ n < 16, Text.hexDigit? (Nat.digitChar n) = some n := by
  decide

/-- An escape of one letter is read as what it stands for. -/
theorem readString_short {e c : Char} (hu : e ≠ 'u') (h : shortEscape? e = some c)
    (rest : List Char) :
    readString none ('\\' :: e :: rest) = (readString none rest).map (pushChar c) := by
  rw [readString.eq_3 none e rest fun _ _ _ _ _ he => absurd he hu, h]
  rfl

/-- An escape by number is read as the control character with that number. -/
theorem readString_control {c : Char} (h : c.toNat < 0x20) (rest : List Char) :
    readString none ('\\' :: 'u' :: '0' :: '0' :: Nat.digitChar (c.toNat / 16) ::
      Nat.digitChar (c.toNat % 16) :: rest) = (readString none rest).map (pushChar c) := by
  have hunit : unit? '0' '0' (Nat.digitChar (c.toNat / 16)) (Nat.digitChar (c.toNat % 16)) =
      some c.toNat := by
    have hzero : Text.hexDigit? '0' = some 0 := by decide
    have hhigh := hexDigit?_digitChar (c.toNat / 16) (by omega)
    have hlow := hexDigit?_digitChar (c.toNat % 16) (by omega)
    have hvalue : ((0 * 16 + 0) * 16 + c.toNat / 16) * 16 + c.toNat % 16 = c.toNat := by omega
    simp only [unit?, hzero, hhigh, hlow, Option.bind_eq_bind, Option.bind_some, Option.pure_def,
      hvalue]
  rw [readString.eq_2, hunit]
  have hhigh : ¬(0xd800 ≤ c.toNat ∧ c.toNat < 0xdc00) := by omega
  have hlow : ¬(0xdc00 ≤ c.toNat ∧ c.toNat < 0xe000) := by omega
  simp only [Option.bind_eq_bind, Option.bind_some, if_neg hhigh, if_neg hlow, Char.ofNat_toNat]
  rfl

/-- A character that needs no escape is read as itself. -/
theorem readString_plain {c : Char} (h : 0x20 ≤ c.toNat) (hquote : c ≠ '"') (hback : c ≠ '\\')
    (rest : List Char) : readString none (c :: rest) = (readString none rest).map (pushChar c) := by
  rw [readString.eq_4 none c rest (fun _ _ _ _ _ he => absurd he hback)
    fun _ _ he => absurd he hback]
  have hplain : ¬((none : Option Nat).isSome = true ∨ c.toNat < 0x20) := by
    simp only [Option.isSome_none, Bool.false_eq_true, false_or]
    omega
  rw [if_neg hplain, if_neg hquote]
  rfl

/-- However a character is written, it is read as itself. -/
theorem readString_escape (c : Char) (rest : List Char) :
    readString none (escape c ++ rest) = (readString none rest).map (pushChar c) := by
  unfold escape
  split
  case h_8 hquote hback _ _ _ _ _ =>
    split
    · next h => exact readString_control h rest
    · next h => exact readString_plain (by omega) hquote hback rest
  all_goals exact readString_short (by decide) (by decide) rest

/-- A string is read up to its closing quote. -/
theorem readString_flatMap_escape (s rest : List Char) :
    readString none (s.flatMap escape ++ '"' :: rest) = some (s, rest) := by
  induction s with
  | nil => simp [readString]
  | cons c s ih =>
    rw [List.flatMap_cons, List.append_assoc, readString_escape, ih]
    rfl

/-! ## Arrays -/

theorem dropWhile_isSpace {c : Char} (h : isSpace c = false) (rest : List Char) :
    (c :: rest).dropWhile isSpace = c :: rest := by
  rw [List.dropWhile_cons_of_neg]
  simp [h]

theorem elements_cons (s t : List Char) (rest : List (List Char)) :
    elements (s :: t :: rest) = string s ++ ',' :: elements (t :: rest) := rfl

theorem elements_cons_of_ne_nil (s : List Char) {rest : List (List Char)} (h : rest ≠ []) :
    elements (s :: rest) = string s ++ ',' :: elements rest := by
  obtain ⟨t, rest, rfl⟩ := List.exists_cons_of_ne_nil h
  rfl

/-- The elements of an array are its strings with commas between them. -/
theorem elements_eq (strings : List (List Char)) :
    elements strings = [','].intercalate (strings.map string) := by
  induction strings with
  | nil => rfl
  | cons s strings ih =>
    by_cases h : strings = []
    · subst h
      exact List.intercalate_singleton.symm
    · have hmap : strings.map string ≠ [] := by simpa using h
      rw [elements_cons_of_ne_nil s h, ih, List.map_cons, List.intercalate_cons_of_ne_nil hmap,
        List.append_assoc, List.singleton_append]

/-- The writer of an array goes on behind a comma, if it has written something and has something to
write. -/
theorem elements_append {xs ys : List (List Char)} (hxs : xs ≠ []) (hys : ys ≠ []) :
    elements (xs ++ ys) = elements xs ++ ',' :: elements ys := by
  induction xs with
  | nil => exact absurd rfl hxs
  | cons s xs ih =>
    by_cases h : xs = []
    · subst h
      exact elements_cons_of_ne_nil s hys
    · have happend : xs ++ ys ≠ [] := List.append_ne_nil_of_left_ne_nil h ys
      rw [List.cons_append, elements_cons_of_ne_nil s happend, ih h, elements_cons_of_ne_nil s h,
        List.append_assoc, List.cons_append]

/-- Every string of an array takes two characters at least, its quotes. -/
theorem length_lt_length_elements (s : List Char) (rest : List (List Char)) :
    rest.length + 1 < (elements (s :: rest)).length := by
  induction rest generalizing s with
  | nil => simp [elements, string]
  | cons t rest ih =>
    have := ih t
    rw [elements_cons]
    simp only [List.length_append, List.length_cons]
    omega

/-- Elements are read up to the closing bracket, if there are not more of them than counted. -/
theorem readElements_elements (s : List Char) (strings : List (List Char)) {n : Nat}
    (hn : strings.length < n) (rest : List Char) :
    readElements n (elements (s :: strings) ++ ']' :: rest) = some (s :: strings, rest) := by
  induction strings generalizing s n with
  | nil =>
    obtain ⟨n, rfl⟩ : ∃ k, n = k + 1 := ⟨n - 1, by omega⟩
    simp only [elements, string, List.append_assoc, List.cons_append, List.nil_append,
      readElements, dropWhile_isSpace (show isSpace '"' = false by decide),
      readString_flatMap_escape, Option.bind_eq_bind, Option.bind_some,
      dropWhile_isSpace (show isSpace ']' = false by decide)]
  | cons t strings ih =>
    obtain ⟨n, rfl⟩ : ∃ k, n = k + 1 := ⟨n - 1, by omega⟩
    have hn' : strings.length < n := by simpa using hn
    rw [elements_cons]
    simp only [string, List.append_assoc, List.cons_append, List.nil_append, readElements,
      dropWhile_isSpace (show isSpace '"' = false by decide), readString_flatMap_escape,
      Option.bind_eq_bind, Option.bind_some,
      dropWhile_isSpace (show isSpace ',' = false by decide), ih t hn', Option.map_some]

/-- **The reader undoes the writer** on every array of strings, with white space behind it. -/
theorem readArray_array (strings : List (List Char)) {space : List Char}
    (hspace : space.all isSpace = true) : readArray (array strings ++ space) = some strings := by
  unfold readArray array
  rw [List.cons_append, List.cons_append, dropWhile_isSpace (by decide), List.append_assoc,
    List.singleton_append]
  cases strings with
  | nil =>
    simp only [elements, List.nil_append, dropWhile_isSpace (show isSpace ']' = false by decide),
      Option.bind_eq_bind, Option.bind_some, hspace, if_true]
  | cons s strings =>
    have hlength : strings.length < (elements (s :: strings) ++ ']' :: space).length := by
      have := length_lt_length_elements s strings
      rw [List.length_append]
      omega
    have hquote : ∃ cs, elements (s :: strings) ++ ']' :: space = '"' :: cs := by
      cases strings <;> exact ⟨_, rfl⟩
    have hread := readElements_elements s strings hlength space
    obtain ⟨cs, hcs⟩ := hquote
    rw [hcs] at hread ⊢
    simp only [dropWhile_isSpace (show isSpace '"' = false by decide), hread,
      Option.bind_eq_bind, Option.bind_some, hspace, if_true]
    rfl

/-! ## One line -/

theorem space_le_digitChar : ∀ n < 16, 0x20 ≤ (Nat.digitChar n).toNat := by
  decide

theorem space_le_of_mem_escape {c d : Char} (h : d ∈ escape c) : 0x20 ≤ d.toNat := by
  unfold escape at h
  split at h
  case h_8 =>
    split at h
    · next hc =>
      simp only [List.mem_cons, List.not_mem_nil, or_false] at h
      rcases h with rfl | rfl | rfl | rfl | rfl | rfl
      · decide
      · decide
      · decide
      · decide
      · exact space_le_digitChar _ (by omega)
      · exact space_le_digitChar _ (by omega)
    · next hc =>
      rw [List.mem_singleton.1 h]
      omega
  all_goals
    simp only [List.mem_cons, List.not_mem_nil, or_false] at h
    rcases h with rfl | rfl <;> decide

theorem space_le_of_mem_string {s : List Char} {d : Char} (h : d ∈ string s) :
    0x20 ≤ d.toNat := by
  simp only [string, List.mem_append, List.mem_cons, List.mem_flatMap, List.not_mem_nil,
    or_false] at h
  rcases h with (rfl | ⟨c, -, h⟩) | rfl
  · decide
  · exact space_le_of_mem_escape h
  · decide

theorem space_le_of_mem_elements {strings : List (List Char)} {d : Char}
    (h : d ∈ elements strings) : 0x20 ≤ d.toNat := by
  induction strings with
  | nil => cases h
  | cons s strings ih =>
    cases strings with
    | nil => exact space_le_of_mem_string h
    | cons t strings =>
      rw [elements_cons, List.mem_append, List.mem_cons] at h
      rcases h with h | rfl | h
      · exact space_le_of_mem_string h
      · decide
      · exact ih h

theorem space_le_of_mem_array {strings : List (List Char)} {d : Char}
    (h : d ∈ array strings) : 0x20 ≤ d.toNat := by
  simp only [array, List.mem_append, List.mem_cons, List.not_mem_nil, or_false] at h
  rcases h with (rfl | h) | rfl
  · decide
  · exact space_le_of_mem_elements h
  · decide

end Json

namespace Listing

/-- **A listing written as JSON is read back**, and stands on one line. Its bytes are UTF-8, and a
reader of them finds the labels in order; the last byte is a line feed, and no other one is below
the space. -/
theorem json_read_back (listing : Listing) :
    let bytes := (listing.render .json).toUTF8
    bytes.IsValidUTF8 ∧
      Text.readBytes Json.readArray bytes = some (listing.labels.map String.toList) ∧
      ∃ line, bytes.data.toList = line ++ [0x0a] ∧ ∀ b ∈ line, 0x20 ≤ b.toNat := by
  refine ⟨(listing.render .json).isValidUTF8, ?_, ?_⟩
  · rw [render, Text.readBytes_toUTF8, labels, List.map_map]
    exact Json.readArray_array listing.labelChars (by decide)
  · refine ⟨(Json.array listing.labelChars).flatMap String.utf8EncodeChar, ?_, ?_⟩
    · rw [render, Text.bytes_ofList, renderChars, List.flatMap_append]
      rfl
    · intro b hb
      exact Text.space_le_of_mem_bytes (fun c hc => Json.space_le_of_mem_array hc) hb

end Listing

end Countoff
