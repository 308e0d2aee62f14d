import AuthServer.Json.Typed
import AuthServer.Proofs.Text.Utf8

/-!
A whole number that was written is read as itself, up to the comma or the bracket after it. Signed
words of 64 bits keep their whole range, the least of them included.
-/

namespace AuthServer.Json

/-- What follows a value inside a container: a comma, or the end of the container. -/
inductive AfterValue : List UInt8 → Prop
  | comma (rest : List UInt8) : AfterValue (0x2C :: rest)
  | listEnd (rest : List UInt8) : AfterValue (0x5D :: rest)
  | objectEnd (rest : List UInt8) : AfterValue (0x7D :: rest)

/-! ## Digits -/

def digitByte (digit : Nat) : UInt8 :=
  UInt8.ofNat (0x30 + digit)

theorem utf8EncodeChar_digitChar (digit : Nat) (small : digit < 10) :
    String.utf8EncodeChar digit.digitChar = [digitByte digit] := by
  revert digit
  decide

@[simp] theorem digit?_digitByte (digit : Nat) (small : digit < 10) :
    digit? (digitByte digit) = some digit := by
  revert digit
  decide

theorem digitByte_ne_zero (digit : Nat) (small : digit < 10) (positive : 0 < digit) :
    digitByte digit ≠ 0x30 := by
  revert digit
  decide

def digitBytes (value : Nat) : List UInt8 :=
  (Nat.toDigits 10 value).flatMap String.utf8EncodeChar

theorem digitBytes_of_lt (digit : Nat) (small : digit < 10) :
    digitBytes digit = [digitByte digit] := by
  simp [digitBytes, Nat.toDigits_of_lt_base small, utf8EncodeChar_digitChar digit small]

theorem digitBytes_of_le (value : Nat) (large : 10 ≤ value) :
    digitBytes value = digitBytes (value / 10) ++ [digitByte (value % 10)] := by
  simp [digitBytes, Nat.toDigits_of_base_le (by omega) large,
    utf8EncodeChar_digitChar (value % 10) (by omega)]

/-- A number starts with a digit, which is zero for no number but zero. -/
theorem exists_digitBytes (value : Nat) :
    ∃ digit bytes, digit < 10 ∧ (0 < value → 0 < digit) ∧
      digitBytes value = digitByte digit :: bytes := by
  induction value using Nat.strongRecOn with
  | ind value induction =>
      by_cases small : value < 10
      · exact ⟨value, [], small, id, digitBytes_of_lt value small⟩
      · rcases induction (value / 10) (by omega) with
          ⟨first, others, firstSmall, firstPositive, written⟩
        refine ⟨first, others ++ [digitByte (value % 10)], firstSmall,
          fun _ => firstPositive (by omega), ?_⟩
        rw [digitBytes_of_le value (by omega), written, List.cons_append]

theorem readUnsigned_digitBytes (positive : Bool) (value : Nat) (someValue : 0 < value)
    (fits : value < wordEnd) (rest : List UInt8) :
    readUnsigned positive (digitBytes value ++ rest) = readIntegerDigits positive value rest := by
  induction value using Nat.strongRecOn generalizing rest with
  | ind value induction =>
      by_cases small : value < 10
      · rw [digitBytes_of_lt value small, List.singleton_append, readUnsigned,
          digit?_digitByte value small]
        exact fun equal => digitByte_ne_zero value small someValue equal
      · have next : 10 * (value / 10) + value % 10 = value := by omega
        rw [digitBytes_of_le value (by omega), List.append_assoc, List.singleton_append,
          induction (value / 10) (by omega) (by omega) (by omega), readIntegerDigits,
          digit?_digitByte (value % 10) (by omega)]
        simp only [next, if_pos fits]

theorem readIntegerDigits_of_afterValue (positive : Bool) (value : Nat) {rest : List UInt8}
    (after : AfterValue rest) :
    readIntegerDigits positive value rest = .ok (ofInteger positive value, rest) := by
  cases after <;> rfl

theorem readUnsigned_of_afterValue (positive : Bool) (value : Nat) (fits : value < wordEnd)
    {rest : List UInt8} (after : AfterValue rest) :
    readUnsigned positive (digitBytes value ++ rest) = .ok (ofInteger positive value, rest) := by
  rcases Nat.eq_zero_or_pos value with rfl | someValue
  · rw [digitBytes_of_lt 0 (by omega)]
    cases after <;> rfl
  · rw [readUnsigned_digitBytes positive value someValue fits]
    exact readIntegerDigits_of_afterValue positive value after

/-! ## Signed words -/

theorem encode_toString_ofNat (value : Nat) :
    Utf8.encode (toString (Int.ofNat value)) = digitBytes value := by
  change Utf8.encode (Nat.repr value) = _
  rw [Utf8.encode_eq_flatMap, Nat.toList_repr]
  rfl

theorem encode_toString_negSucc (less : Nat) :
    Utf8.encode (toString (Int.negSucc less)) = 0x2D :: digitBytes (less + 1) := by
  have minus : Utf8.encode "-" = [0x2D] := by decide +kernel
  change Utf8.encode ("-" ++ Nat.repr (less + 1)) = _
  rw [Utf8.encode_append, minus, Utf8.encode_eq_flatMap, Nat.toList_repr]
  rfl

theorem isBlank_digitByte (digit : Nat) (small : digit < 10) :
    isBlank (digitByte digit) = false := by
  revert digit
  decide

theorem digitByte_ne_minus (digit : Nat) (small : digit < 10) : digitByte digit ≠ 0x2D := by
  revert digit
  decide

theorem readInt64_written (value : Int64) {rest : List UInt8} (after : AfterValue rest) :
    readInt64 (Utf8.encode (toString value.toInt) ++ rest) = .ok (value, rest) := by
  have upper := value.toInt_lt
  have lower := value.le_toInt
  cases whole : value.toInt with
  | ofNat magnitude =>
      rw [whole] at upper lower
      have fits : magnitude < 0x8000000000000000 := by
        simp at upper
        omega
      have restored : Int64.ofNat magnitude = value := by
        rw [← Int64.ofInt_toInt value, whole]
        rfl
      rcases exists_digitBytes magnitude with ⟨digit, bytes, small, -, written⟩
      have read := readUnsigned_of_afterValue true magnitude
        (show magnitude < 0x10000000000000000 by omega) after
      rw [encode_toString_ofNat]
      rw [written, List.cons_append] at read ⊢
      rw [readInt64, skipBlanks, isBlank_digitByte digit small]
      simp only [startsNumber, digit?_digitByte digit small, Option.isSome_some, Bool.or_true,
        if_true, Bool.false_eq_true, if_false]
      rw [readNumber, read]
      · simp [ofInteger, fits, restored]
      · exact fun rest' equal => digitByte_ne_minus digit small (List.cons.inj equal).1
  | negSucc less =>
      rw [whole] at upper lower
      have fits : less + 1 ≤ 0x8000000000000000 := by
        simp at lower
        omega
      have restored : Int64.ofInt (-(↑(less + 1) : Int)) = value := by
        rw [← Int64.ofInt_toInt value, whole]
        rfl
      have read := readUnsigned_of_afterValue false (less + 1)
        (show less + 1 < 0x10000000000000000 by omega) after
      rw [encode_toString_negSucc, List.cons_append, readInt64, skipBlanks]
      simp only [show isBlank 0x2D = false by decide, Bool.false_eq_true, if_false,
        show startsNumber 0x2D = true by decide, if_true, readNumber, read]
      have notFloating : ¬(less + 1 = 0 ∨ 0x8000000000000000 < less + 1) := by omega
      simp only [ofInteger, Bool.false_eq_true, if_false, if_neg notFloating, restored]

end AuthServer.Json
