/-!
# Texts as bytes

Files and streams hold bytes, while the writers and readers of the formats work on characters. This
module carries statements about characters over to the UTF-8 bytes: a text is read back from its
bytes (`readBytes_toUTF8`), and a byte below the space comes from a character below the space only
(`space_le_of_mem_bytes`), since every byte of a character beyond ASCII is at least `0x80`.
-/

namespace Countoff.Text

/-- Reads bytes with a reader of characters. Bytes that are not UTF-8 cannot be read. -/
def readBytes {α : Type} (reader : List Char → Option α) (bytes : ByteArray) : Option α :=
  (String.fromUTF8? bytes).bind fun text => reader text.toList

@[simp] theorem fromUTF8?_toUTF8 (text : String) : String.fromUTF8? text.toUTF8 = some text := by
  unfold String.fromUTF8?
  have valid : text.toUTF8.IsValidUTF8 := text.isValidUTF8
  rw [dif_pos valid]
  rfl

/-- Reading the bytes of a text is reading its characters. -/
theorem readBytes_toUTF8 {α : Type} (reader : List Char → Option α) (cs : List Char) :
    readBytes reader (String.ofList cs).toUTF8 = reader cs := by
  unfold readBytes
  rw [fromUTF8?_toUTF8, Option.bind_some, String.toList_ofList]

/-- The bytes of a text are those of its characters in order. -/
theorem bytes_ofList (cs : List Char) :
    (String.ofList cs).toUTF8.data.toList = cs.flatMap String.utf8EncodeChar := by
  rw [String.toUTF8_eq_toByteArray, String.toByteArray_ofList, List.utf8Encode,
    List.data_toByteArray]

/-- Every byte of a character that is not below the space is not below it either. -/
theorem space_le_of_mem_utf8EncodeChar {c : Char} (hc : 0x20 ≤ c.toNat) {b : UInt8}
    (hb : b ∈ String.utf8EncodeChar c) : 0x20 ≤ b.toNat := by
  have hv : c.val.toNat = c.toNat := rfl
  unfold String.utf8EncodeChar at hb
  simp only [hv] at hb
  split at hb
  · rw [List.mem_singleton] at hb
    subst hb
    rw [UInt8.toNat_ofNat']
    omega
  · -- the bytes of longer characters carry one of the marks 0x80, 0xc0, 0xe0 and 0xf0
    have marked (m k : Nat) (hk : 0x80 ≤ k) (hm : m + k < 256) :
        0x20 ≤ (UInt8.ofNat (m + k)).toNat := by
      rw [UInt8.toNat_ofNat']
      omega
    split at hb
    · simp only [List.mem_cons, List.not_mem_nil, or_false] at hb
      rcases hb with rfl | rfl <;> apply marked <;> omega
    · split at hb
      · simp only [List.mem_cons, List.not_mem_nil, or_false] at hb
        rcases hb with rfl | rfl | rfl <;> apply marked <;> omega
      · simp only [List.mem_cons, List.not_mem_nil, or_false] at hb
        rcases hb with rfl | rfl | rfl | rfl <;> apply marked <;> omega

/-- A text without characters below the space has no byte below it. -/
theorem space_le_of_mem_bytes {cs : List Char} (h : ∀ c ∈ cs, 0x20 ≤ c.toNat) {b : UInt8}
    (hb : b ∈ cs.flatMap String.utf8EncodeChar) : 0x20 ≤ b.toNat := by
  obtain ⟨c, hc, hb⟩ := List.mem_flatMap.1 hb
  exact space_le_of_mem_utf8EncodeChar (h c hc) hb

end Countoff.Text
