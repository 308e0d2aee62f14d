import AuthServer.Text.Utf8

/-!
The UTF-8 form of a text is the forms of its characters one after the other, and it reads back as
the text. A character below 128 is one byte; the bytes of every other character are above 127.
-/

namespace AuthServer.Utf8

private theorem toListLoop_eq (bytes : ByteArray) (index : Nat) (reversed : List UInt8) :
    ByteArray.toList.loop bytes index reversed =
      reversed.reverse ++ bytes.data.toList.drop index := by
  induction index, reversed using ByteArray.toList.loop.induct bytes with
  | case1 index reversed inside induction =>
      have inList : index < bytes.data.toList.length := by simpa using inside
      have atIndex : bytes.get! index = bytes.data.toList[index] := by
        change bytes.data[index]! = _
        rw [getElem!_pos bytes.data index (by simpa using inside)]
        simp
      rw [ByteArray.toList.loop, if_pos inside, induction, atIndex,
        List.drop_eq_getElem_cons inList]
      simp
  | case2 index reversed outside =>
      rw [ByteArray.toList.loop, if_neg outside,
        List.drop_of_length_le (by simpa using outside), List.append_nil]

private theorem toList_eq (bytes : ByteArray) : bytes.toList = bytes.data.toList := by
  rw [ByteArray.toList, toListLoop_eq bytes 0 []]
  simp

theorem encode_ofList (chars : List Char) :
    encode (String.ofList chars) = chars.flatMap String.utf8EncodeChar := by
  rw [encode, toList_eq]
  simp [List.utf8Encode]

theorem encode_eq_flatMap (text : String) :
    encode text = text.toList.flatMap String.utf8EncodeChar := by
  rw [← encode_ofList, String.ofList_toList]

@[simp] theorem encode_append (left right : String) :
    encode (left ++ right) = encode left ++ encode right := by
  simp [encode_eq_flatMap]

theorem encode_empty : encode "" = [] := by
  simp [encode_eq_flatMap]

@[simp] theorem decode_encode (text : String) : decode (encode text) = some text := by
  have restored : (⟨(encode text).toArray⟩ : ByteArray) = text.toByteArray := by
    rw [encode, toList_eq]
    simp
  rw [decode, restored, String.fromUTF8?, dif_pos text.isValidUTF8]
  rfl

theorem encode_injective : Function.Injective encode := by
  intro left right equal
  have decoded := congrArg decode equal
  simpa using decoded

theorem decode_eq_some_iff {bytes : List UInt8} {text : String} :
    decode bytes = some text ↔ bytes = encode text := by
  constructor
  · intro decoded
    rw [decode, String.fromUTF8?] at decoded
    split at decoded
    · rename_i valid
      cases decoded
      change bytes = ByteArray.toList ⟨bytes.toArray⟩
      rw [toList_eq]
    · cases decoded
  · rintro rfl
    exact decode_encode text

/-! ## Single characters -/

theorem utf8EncodeChar_of_lt (char : Char) (ascii : char.toNat < 128) :
    String.utf8EncodeChar char = [UInt8.ofNat char.toNat] := by
  have small : char.val.toNat ≤ 0x7F := by
    change char.toNat ≤ 127
    omega
  simp only [String.utf8EncodeChar, if_pos small]
  rfl

/-- No byte of a character outside ASCII can be taken for an ASCII character. -/
theorem le_of_mem_utf8EncodeChar (char : Char) (beyond : 128 ≤ char.toNat) (byte : UInt8)
    (member : byte ∈ String.utf8EncodeChar char) : 128 ≤ byte.toNat := by
  have large : ¬char.val.toNat ≤ 0x7F := by
    change ¬char.toNat ≤ 127
    omega
  simp only [String.utf8EncodeChar, if_neg large] at member
  split at member
  · rcases List.mem_cons.mp member with rfl | member
    · simp; omega
    · rcases List.mem_singleton.mp member with rfl
      simp; omega
  · split at member
    · simp only [List.mem_cons, List.not_mem_nil, or_false] at member
      rcases member with rfl | rfl | rfl <;> simp <;> omega
    · simp only [List.mem_cons, List.not_mem_nil, or_false] at member
      rcases member with rfl | rfl | rfl | rfl <;> simp <;> omega

theorem ofNat_mem_of_mem_encode {text : String} {byte : UInt8} (member : byte ∈ encode text)
    (ascii : byte.toNat < 128) : Char.ofNat byte.toNat ∈ text.toList := by
  rw [encode_eq_flatMap] at member
  rcases List.mem_flatMap.mp member with ⟨char, charMember, member⟩
  by_cases beyond : 128 ≤ char.toNat
  · have large := le_of_mem_utf8EncodeChar char beyond byte member
    omega
  · rw [utf8EncodeChar_of_lt char (by omega), List.mem_singleton] at member
    have same : byte.toNat = char.toNat := by
      rw [member, UInt8.toNat_ofNat']
      omega
    rw [same, Char.ofNat_toNat]
    exact charMember

end AuthServer.Utf8
