import AuthServer.Encoding.Base64

/-!
What base 64 writes it reads back, and it reads nothing but characters of its alphabet.
-/

namespace AuthServer.Base64

/-! ## The alphabet -/

theorem value?_char (alphabet : Alphabet) (value : Nat) (small : value < 64) :
    alphabet.value? (alphabet.char value) = some value := by
  cases alphabet <;> revert value <;> decide

def Alphabet.Contains (alphabet : Alphabet) (char : Char) : Prop :=
  (alphabet.value? char).isSome

theorem contains_char (alphabet : Alphabet) (value : Nat) (small : value < 64) :
    alphabet.Contains (alphabet.char value) := by
  simp [Alphabet.Contains, value?_char alphabet value small]

theorem toNat_of_contains {char : Char} (contained : Alphabet.urlSafe.Contains char) :
    (65 ≤ char.toNat ∧ char.toNat ≤ 90) ∨ (97 ≤ char.toNat ∧ char.toNat ≤ 122) ∨
      (48 ≤ char.toNat ∧ char.toNat ≤ 57) ∨ char.toNat = 45 ∨ char.toNat = 95 := by
  by_cases hyphen : char = '-'
  · exact .inr (.inr (.inr (.inl (by rw [hyphen]; rfl))))
  by_cases lowLine : char = '_'
  · exact .inr (.inr (.inr (.inr (by rw [lowLine]; rfl))))
  simp only [Alphabet.Contains, Alphabet.value?, Alphabet.extra] at contained
  split at contained
  · rename_i upper
    exact .inl upper
  split at contained
  · rename_i lower
    exact .inr (.inl lower)
  split at contained
  · rename_i digit
    exact .inr (.inr (.inl digit))
  · simp [hyphen, lowLine] at contained

/-! ## Reading back -/

private theorem mapM_values (alphabet : Alphabet) (values : List Nat)
    (small : ∀ value ∈ values, value < 64) :
    (values.map alphabet.char).mapM alphabet.value? = some values := by
  induction values with
  | nil => rfl
  | cons value values induction =>
      have rest := induction fun other member => small other (List.mem_cons_of_mem _ member)
      simp [List.mapM_cons, value?_char alphabet value (small value (by simp)), rest]

def values : List UInt8 → List Nat
  | first :: second :: third :: rest =>
      first.toNat / 4 :: (first.toNat % 4 * 16 + second.toNat / 16) ::
        (second.toNat % 16 * 4 + third.toNat / 64) :: third.toNat % 64 :: values rest
  | [first, second] =>
      [first.toNat / 4, first.toNat % 4 * 16 + second.toNat / 16, second.toNat % 16 * 4]
  | [first] => [first.toNat / 4, first.toNat % 4 * 16]
  | [] => []

theorem encode_eq_map (alphabet : Alphabet) (bytes : List UInt8) :
    encode alphabet bytes = (values bytes).map alphabet.char := by
  induction bytes using values.induct with
  | case1 first second third rest induction => simp [encode, values, induction]
  | case2 first second => rfl
  | case3 first => rfl
  | case4 => rfl

theorem values_lt (bytes : List UInt8) : ∀ value ∈ values bytes, value < 64 := by
  induction bytes using values.induct with
  | case1 first second third rest induction =>
      have firstBound := first.toNat_lt
      have secondBound := second.toNat_lt
      have thirdBound := third.toNat_lt
      simp only [values, List.forall_mem_cons]
      exact ⟨by omega, by omega, by omega, by omega, induction⟩
  | case2 first second =>
      have firstBound := first.toNat_lt
      have secondBound := second.toNat_lt
      simp only [values, List.forall_mem_cons]
      exact ⟨by omega, by omega, by omega, by simp⟩
  | case3 first =>
      have firstBound := first.toNat_lt
      simp only [values, List.forall_mem_cons]
      exact ⟨by omega, by omega, by simp⟩
  | case4 => simp [values]

private theorem ofNat_eq (byte : UInt8) {value : Nat} (equal : value = byte.toNat) :
    UInt8.ofNat value = byte := by
  rw [equal]
  exact UInt8.ofNat_toNat

theorem ofValues_values (bytes : List UInt8) : ofValues (values bytes) = some bytes := by
  induction bytes using values.induct with
  | case1 first second third rest induction =>
      have firstBound := first.toNat_lt
      have secondBound := second.toNat_lt
      have thirdBound := third.toNat_lt
      simp only [values, ofValues, induction, Option.map_some]
      rw [ofNat_eq first (by omega), ofNat_eq second (by omega),
        ofNat_eq third (by omega)]
  | case2 first second =>
      have firstBound := first.toNat_lt
      have secondBound := second.toNat_lt
      have noSpareBits : second.toNat % 16 * 4 % 4 = 0 := by omega
      simp only [values, ofValues, if_pos noSpareBits]
      rw [ofNat_eq first (by omega), ofNat_eq second (by omega)]
  | case3 first =>
      have firstBound := first.toNat_lt
      have noSpareBits : first.toNat % 4 * 16 % 16 = 0 := by omega
      simp only [values, ofValues, if_pos noSpareBits]
      rw [ofNat_eq first (by omega)]
  | case4 => rfl

@[simp] theorem decode_encode (alphabet : Alphabet) (bytes : List UInt8) :
    decode alphabet (encode alphabet bytes) = some bytes := by
  rw [decode, encode_eq_map, mapM_values alphabet _ (values_lt bytes)]
  exact ofValues_values bytes

theorem contains_of_mem_encode (alphabet : Alphabet) (bytes : List UInt8) :
    ∀ char ∈ encode alphabet bytes, alphabet.Contains char := by
  intro char member
  rw [encode_eq_map] at member
  rcases List.mem_map.mp member with ⟨value, valueMember, rfl⟩
  exact contains_char alphabet value (values_lt bytes value valueMember)

theorem length_encode (alphabet : Alphabet) {bytes : List UInt8} (whole : bytes.length % 3 = 0) :
    (encode alphabet bytes).length % 4 = 0 := by
  induction bytes using values.induct with
  | case1 first second third rest induction =>
      simp only [List.length_cons] at whole
      have others := induction (by omega)
      simp only [encode, List.length_cons]
      omega
  | case2 first second => simp at whole
  | case3 first => simp at whole
  | case4 => rfl

theorem decodePadded_encode (alphabet : Alphabet) {bytes : List UInt8}
    (whole : bytes.length % 3 = 0) :
    decodePadded alphabet (encode alphabet bytes) = some bytes := by
  have absent : '=' ∉ (encode alphabet bytes).reverse := by
    intro member
    have contained := contains_of_mem_encode alphabet bytes '=' (List.mem_reverse.mp member)
    cases alphabet <;> cases contained
  have unpadded : dropPadding (encode alphabet bytes) = encode alphabet bytes := by
    unfold dropPadding
    split
    · rename_i layout
      simp [layout] at absent
    · rename_i layout
      simp [layout] at absent
    · rfl
  rw [decodePadded, if_pos (length_encode alphabet whole), unpadded, decode_encode]

theorem encode_ne_nil (alphabet : Alphabet) (bytes : List UInt8) (some : bytes ≠ []) :
    encode alphabet bytes ≠ [] := by
  cases bytes using values.induct <;> simp_all [encode]

private theorem contains_of_mapM (alphabet : Alphabet) {chars : List Char} {values : List Nat}
    (read : chars.mapM alphabet.value? = some values) :
    ∀ char ∈ chars, alphabet.Contains char := by
  induction chars generalizing values with
  | nil => simp
  | cons char chars induction =>
      rw [List.mapM_cons] at read
      cases value : alphabet.value? char with
      | none => simp [value] at read
      | some first =>
          cases rest : chars.mapM alphabet.value? with
          | none => simp [value, rest] at read
          | some others =>
              exact List.forall_mem_cons.mpr
                ⟨by simp [Alphabet.Contains, value], induction rest⟩

theorem contains_of_decode (alphabet : Alphabet) {chars : List Char} {bytes : List UInt8}
    (read : decode alphabet chars = some bytes) : ∀ char ∈ chars, alphabet.Contains char := by
  rw [decode] at read
  cases values : chars.mapM alphabet.value? with
  | none => simp [values] at read
  | some values' => exact contains_of_mapM alphabet values

end AuthServer.Base64
