import Phrasebook.Input

/-! The bytes of a text in UTF-8. A character is known by its first byte, which no later byte of a
character can be. So where the bytes of one text stand among the bytes of another, the text itself
stands in the other, and it starts at that byte offset. -/
namespace Phrasebook.Input

open Text

/-- The bytes of a text in UTF-8. -/
def encode (text : Text) : Bytes := text.flatMap String.utf8EncodeChar

theorem encode_cons (c : Char) (text : Text) :
    encode (c :: text) = String.utf8EncodeChar c ++ encode text := rfl

theorem encode_append (text more : Text) : encode (text ++ more) = encode text ++ encode more :=
  List.flatMap_append

theorem decode?_eq_some_iff {bytes : Bytes} {text : Text} :
    decode? bytes = some text ↔ encode text = bytes := by
  have same : ByteArray.mk bytes.toArray = bytes.toByteArray :=
    ByteArray.ext List.data_toByteArray.symm
  rw [decode?, same]
  constructor
  · intro decoded
    obtain ⟨chars, found, rfl⟩ := Option.map_eq_some_iff.1 decoded
    have valid : bytes.toByteArray.utf8Decode?.isSome = true := by rw [found]; rfl
    have encoded := ByteArray.utf8Encode_get_utf8Decode? (h := valid)
    simp only [found, Option.get_some] at encoded
    exact List.toByteArray_inj.1 encoded
  · rintro rfl
    have decoded : (encode text).toByteArray.utf8Decode? = some text.toArray :=
      List.utf8Decode?_utf8Encode
    rw [decoded]
    rfl

/-- Different texts have different bytes. -/
theorem encode_inj {text other : Text} : encode text = encode other ↔ text = other := by
  constructor
  · intro same
    have decoded := decode?_eq_some_iff.2 same
    rw [decode?_eq_some_iff.2 rfl] at decoded
    exact (Option.some.inj decoded).symm
  · rintro rfl
    rfl

theorem length_encode (text : Text) : (encode text).length = byteSize text := by
  induction text with
  | nil => rfl
  | cons c text ih =>
    rw [encode_cons, List.length_append, String.length_utf8EncodeChar, ih, byteSize_cons]

section Bytes

variable {c : Char} {b : UInt8}

theorem utf8EncodeChar_of_small (small : c.toNat < 128) :
    String.utf8EncodeChar c = [UInt8.ofNat c.toNat] := by
  unfold String.utf8EncodeChar
  exact if_pos (Nat.le_of_lt_succ small)

/-- A character that takes more than one byte has none below 128. -/
theorem high_of_mem_utf8EncodeChar (large : 128 ≤ c.toNat)
    (member : b ∈ String.utf8EncodeChar c) : 128 ≤ b.toNat := by
  have code : 128 ≤ c.val.toNat := large
  have high {n : Nat} (byte : 128 ≤ n % 256) : 128 ≤ (UInt8.ofNat n).toNat := by
    rwa [UInt8.toNat_ofNat']
  unfold String.utf8EncodeChar at member
  rw [if_neg (by omega)] at member
  split at member
  · simp only [List.mem_cons, List.not_mem_nil, or_false] at member
    rcases member with rfl | rfl <;> (apply high; omega)
  · split at member
    · simp only [List.mem_cons, List.not_mem_nil, or_false] at member
      rcases member with rfl | rfl | rfl <;> (apply high; omega)
    · simp only [List.mem_cons, List.not_mem_nil, or_false] at member
      rcases member with rfl | rfl | rfl | rfl <;> (apply high; omega)

/-- Of the bytes of a character only the first can begin one. -/
theorem eq_zero_of_firstByte {i : Nat} (place : (String.utf8EncodeChar c)[i]? = some b)
    (first : b.IsUTF8FirstByte) : i = 0 := by
  obtain ⟨inside, rfl⟩ := List.getElem?_eq_some_iff.1 place
  have single : [c].utf8Encode = (String.utf8EncodeChar c).toByteArray := List.utf8Encode_singleton
  have inside' : i < [c].utf8Encode.size := by simpa [single] using inside
  apply (@List.isUTF8FirstByte_getElem_utf8Encode_singleton c i inside').1
  simpa only [single, List.getElem_toByteArray] using first

theorem exists_firstByte (c : Char) (text : Text) :
    ∃ b, (encode (c :: text))[0]? = some b ∧ b.IsUTF8FirstByte := by
  have inside : 0 < (String.utf8EncodeChar c).length :=
    List.length_pos_iff.2 String.utf8EncodeChar_ne_nil
  refine ⟨_, ?_, UInt8.isUTF8FirstByte_getElem_zero_utf8EncodeChar (c := c)⟩
  rw [encode_cons, List.getElem?_append_left inside, List.getElem?_eq_getElem inside]

end Bytes

section Places

variable {x text : Text} {i : Nat}

theorem encode_prefix_iff : encode x <+: encode text ↔ x <+: text := by
  constructor
  · rintro ⟨rest, whole⟩
    apply List.isPrefix_of_utf8Encode_append_eq_utf8Encode rest.toByteArray
    have arrays := congrArg List.toByteArray whole
    rwa [List.toByteArray_append] at arrays
  · rintro ⟨rest, rfl⟩
    exact ⟨encode rest, (encode_append x rest).symm⟩

/-- A byte that can begin a character begins one. By induction on the text: it is the first byte of
the first character or lies behind that character. -/
theorem exists_front_of_firstByte {b : UInt8} (here : (encode text)[i]? = some b)
    (first : b.IsUTF8FirstByte) :
    ∃ front rest, text = front ++ rest ∧ byteSize front = i := by
  induction text generalizing i with
  | nil => exact nomatch here
  | cons c text ih =>
    by_cases within : i < (String.utf8EncodeChar c).length
    · rw [encode_cons, List.getElem?_append_left within] at here
      exact ⟨[], c :: text, rfl, (eq_zero_of_firstByte here first).symm⟩
    · rw [encode_cons, List.getElem?_append_right (Nat.le_of_not_lt within)] at here
      obtain ⟨front, rest, rfl, size⟩ := ih here
      refine ⟨c :: front, rest, rfl, ?_⟩
      rw [String.length_utf8EncodeChar] at within size
      rw [byteSize_cons]
      omega

/-- Encoded text stands among encoded text only where the text itself stands. -/
theorem encode_prefix_drop_iff (nonempty : x ≠ []) :
    encode x <+: (encode text).drop i ↔
      ∃ front rest, text = front ++ rest ∧ byteSize front = i ∧ x <+: rest := by
  constructor
  · intro stands
    obtain ⟨a, y, rfl⟩ := List.exists_cons_of_ne_nil nonempty
    obtain ⟨b, head, first⟩ := exists_firstByte a y
    have here : (encode text)[i]? = some b := by
      obtain ⟨more, whole⟩ := stands
      have inside := (List.getElem?_eq_some_iff.1 head).1
      rw [← Nat.add_zero i, ← List.getElem?_drop, ← whole, List.getElem?_append_left inside, head]
    obtain ⟨front, rest, rfl, rfl⟩ := exists_front_of_firstByte here first
    refine ⟨front, rest, rfl, rfl, ?_⟩
    rw [encode_append, ← length_encode, List.drop_left] at stands
    exact encode_prefix_iff.1 stands
  · rintro ⟨front, rest, rfl, rfl, starts⟩
    rw [encode_append, ← length_encode, List.drop_left]
    exact encode_prefix_iff.2 starts

end Places

end Phrasebook.Input
