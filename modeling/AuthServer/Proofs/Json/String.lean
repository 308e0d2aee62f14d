import AuthServer.Json.String
import AuthServer.Proofs.Text.Utf8

/-!
A string that was written is read as the text it was written from, whatever characters the text has,
and reading stops right after the closing quote.
-/

namespace AuthServer.Json

/-! ## Hexadecimal digits -/

theorem hexValue?_hexDigit (value : Nat) (small : value < 16) :
    Text.hexValue? (Text.hexDigit value) = some value := by
  revert value
  decide

theorem hexDigit_toNat_lt (value : Nat) (small : value < 16) :
    (Text.hexDigit value).toNat < 128 := by
  revert value
  decide

/-! ## How characters are written -/

def charBytes (char : Char) : List UInt8 :=
  (escapeChar char).flatMap String.utf8EncodeChar

def contentBytes (chars : List Char) : List UInt8 :=
  chars.flatMap charBytes

theorem encode_stringText (text : String) :
    Utf8.encode (stringText text) = 0x22 :: (contentBytes text.toList ++ [0x22]) := by
  have quote : String.utf8EncodeChar '"' = [0x22] := by decide
  simp only [stringText, Utf8.encode_ofList, List.flatMap_append, List.flatMap_cons,
    List.flatMap_nil, quote, contentBytes, List.flatMap_assoc, List.append_nil,
    List.cons_append, List.nil_append]
  rfl

def IsPlain (byte : UInt8) : Prop :=
  byte ≠ 0x22 ∧ byte ≠ 0x5C ∧ ¬byte < 0x20

/-- A character is written as one of the short escapes, as an escaped number, or as itself. -/
inductive WrittenAs (char : Char) : List Char → Prop
  | short (letter : Char) (byte : UInt8) (ascii : letter.toNat < 128)
      (value : simpleEscape? (UInt8.ofNat letter.toNat) = some byte)
      (same : String.utf8EncodeChar char = [byte]) : WrittenAs char ['\\', letter]
  | numbered (control : char.toNat < 0x20) :
      WrittenAs char
        ['\\', 'u', '0', '0', Text.hexDigit (char.toNat / 16), Text.hexDigit (char.toNat % 16)]
  | plain (notQuote : char ≠ '"') (notBackslash : char ≠ '\\') (notControl : 0x20 ≤ char.toNat) :
      WrittenAs char [char]

theorem writtenAs_escapeChar (char : Char) : WrittenAs char (escapeChar char) := by
  unfold escapeChar
  split
  · exact .short '"' 0x22 (by decide) (by decide) (by decide)
  · exact .short '\\' 0x5C (by decide) (by decide) (by decide)
  · exact .short 'b' 0x08 (by decide) (by decide) (by decide)
  · exact .short 'f' 0x0C (by decide) (by decide) (by decide)
  · exact .short 'n' 0x0A (by decide) (by decide) (by decide)
  · exact .short 'r' 0x0D (by decide) (by decide) (by decide)
  · exact .short 't' 0x09 (by decide) (by decide) (by decide)
  · rename_i notQuote notBackslash _ _ _ _ _
    by_cases control : char.toNat < 0x20
    · rw [if_pos control]
      exact .numbered control
    · rw [if_neg control]
      exact .plain notQuote notBackslash (by omega)

theorem isPlain_of_mem (char : Char) (notQuote : char ≠ '"') (notBackslash : char ≠ '\\')
    (notControl : 0x20 ≤ char.toNat) : ∀ byte ∈ String.utf8EncodeChar char, IsPlain byte := by
  intro byte member
  by_cases ascii : char.toNat < 128
  · rw [Utf8.utf8EncodeChar_of_lt char ascii, List.mem_singleton] at member
    subst member
    have value : (UInt8.ofNat char.toNat).toNat = char.toNat := by simp; omega
    refine ⟨fun equal => notQuote ?_, fun equal => notBackslash ?_, fun less => ?_⟩
    · apply Char.toNat_inj.mp
      rw [← value, equal]
      rfl
    · apply Char.toNat_inj.mp
      rw [← value, equal]
      rfl
    · rw [UInt8.lt_iff_toNat_lt, value] at less
      exact absurd less (by simp; omega)
  · have large := Utf8.le_of_mem_utf8EncodeChar char (by omega) byte member
    refine ⟨fun equal => ?_, fun equal => ?_, fun less => ?_⟩
    · subst equal
      exact absurd large (by decide)
    · subst equal
      exact absurd large (by decide)
    · rw [UInt8.lt_iff_toNat_lt] at less
      exact absurd less (by simp; omega)

/-! ## Reading characters -/

theorem readStringBytes_plain (bytes : List UInt8) (plain : ∀ byte ∈ bytes, IsPlain byte)
    (fuel : Nat) (reversed rest : List UInt8) :
    readStringBytes (bytes.length + fuel) reversed (bytes ++ rest) =
      readStringBytes fuel (bytes.reverse ++ reversed) rest := by
  induction bytes generalizing reversed with
  | nil => simp
  | cons byte bytes induction =>
      have ⟨notQuote, notBackslash, notControl⟩ := plain byte (by simp)
      have step : (byte :: bytes).length + fuel = (bytes.length + fuel) + 1 := by simp; omega
      rw [step, List.cons_append, readStringBytes, if_neg notQuote, if_neg notBackslash,
        if_neg notControl,
        induction fun other member => plain other (List.mem_cons_of_mem _ member)]
      simp

theorem readStringBytes_escape {escape bytes rest : List UInt8}
    (read : readEscape (escape ++ rest) = .ok (bytes, rest)) (fuel : Nat)
    (reversed : List UInt8) :
    readStringBytes (fuel + 1) reversed (0x5C :: escape ++ rest) =
      readStringBytes fuel (bytes.reverse ++ reversed) rest := by
  rw [List.cons_append, readStringBytes, if_neg (by decide), if_pos rfl, read]

theorem readEscape_short {letter : Char} {byte : UInt8} (ascii : letter.toNat < 128)
    (value : simpleEscape? (UInt8.ofNat letter.toNat) = some byte) (rest : List UInt8) :
    readEscape (String.utf8EncodeChar letter ++ rest) = .ok ([byte], rest) := by
  have notNumber : UInt8.ofNat letter.toNat ≠ 0x75 := by
    intro equal
    have none : simpleEscape? 0x75 = none := by decide
    rw [equal, none] at value
    cases value
  rw [Utf8.utf8EncodeChar_of_lt letter ascii, List.singleton_append, readEscape, value]
  exact fun equal => notNumber equal

theorem readEscape_numbered (char : Char) (control : char.toNat < 0x20) (rest : List UInt8) :
    readEscape
        (['u', '0', '0', Text.hexDigit (char.toNat / 16), Text.hexDigit (char.toNat % 16)].flatMap
          String.utf8EncodeChar ++ rest) =
      .ok (String.utf8EncodeChar char, rest) := by
  have high := hexDigit_toNat_lt (char.toNat / 16) (by omega)
  have low := hexDigit_toNat_lt (char.toNat % 16) (by omega)
  have backHigh : Char.ofNat (UInt8.ofNat (Text.hexDigit (char.toNat / 16)).toNat).toNat =
      Text.hexDigit (char.toNat / 16) := by
    simp [Nat.mod_eq_of_lt (show (Text.hexDigit (char.toNat / 16)).toNat < 256 by omega)]
  have backLow : Char.ofNat (UInt8.ofNat (Text.hexDigit (char.toNat % 16)).toNat).toNat =
      Text.hexDigit (char.toNat % 16) := by
    simp [Nat.mod_eq_of_lt (show (Text.hexDigit (char.toNat % 16)).toNat < 256 by omega)]
  have letters : ['u', '0', '0'].flatMap String.utf8EncodeChar = [0x75, 0x30, 0x30] := by decide
  have zero : Text.hexValue? (Char.ofNat (0x30 : UInt8).toNat) = some 0 := by decide
  have value : fourHexDigits? 0x30 0x30 (UInt8.ofNat (Text.hexDigit (char.toNat / 16)).toNat)
      (UInt8.ofNat (Text.hexDigit (char.toNat % 16)).toNat) = some char.toNat := by
    simp only [fourHexDigits?, zero, backHigh, backLow,
      hexValue?_hexDigit (char.toNat / 16) (by omega),
      hexValue?_hexDigit (char.toNat % 16) (by omega)]
    simp
    omega
  have notSurrogate : ¬(0xDC00 ≤ char.toNat ∧ char.toNat ≤ 0xDFFF) := by omega
  have notLead : ¬(0xD800 ≤ char.toNat ∧ char.toNat ≤ 0xDBFF) := by omega
  change readEscape ((['u', '0', '0'] ++ [Text.hexDigit (char.toNat / 16),
    Text.hexDigit (char.toNat % 16)]).flatMap String.utf8EncodeChar ++ rest) = _
  rw [List.flatMap_append, letters]
  simp only [List.flatMap_cons, List.flatMap_nil, Utf8.utf8EncodeChar_of_lt _ high,
    Utf8.utf8EncodeChar_of_lt _ low, List.cons_append, List.nil_append, readEscape, readCodePoint,
    readHexDigits, value, if_neg notSurrogate, if_neg notLead, Char.ofNat_toNat]

/-- Every written character is read as itself, in steps of which there are no more than bytes. -/
theorem readStringBytes_charBytes (char : Char) (fuel : Nat) (reversed rest : List UInt8)
    (enough : (charBytes char).length ≤ fuel) :
    ∃ left, fuel - (charBytes char).length ≤ left ∧
      readStringBytes fuel reversed (charBytes char ++ rest) =
        readStringBytes left ((String.utf8EncodeChar char).reverse ++ reversed) rest := by
  have backslash : String.utf8EncodeChar '\\' = [0x5C] := by decide
  have written := writtenAs_escapeChar char
  unfold charBytes at enough ⊢
  generalize escapeChar char = chars at written enough ⊢
  cases written with
  | short letter byte ascii value same =>
      have length : (String.utf8EncodeChar letter).length = 1 := by
        rw [Utf8.utf8EncodeChar_of_lt letter ascii]
        rfl
      simp only [List.flatMap_cons, List.flatMap_nil, List.append_nil, backslash,
        List.singleton_append, List.length_cons, length] at enough ⊢
      refine ⟨fuel - 1, by omega, ?_⟩
      obtain ⟨left, rfl⟩ : ∃ left, fuel = left + 1 := ⟨fuel - 1, by omega⟩
      rw [readStringBytes_escape (readEscape_short ascii value rest), same]
      rfl
  | numbered control =>
      rw [List.flatMap_cons, backslash, List.singleton_append] at enough ⊢
      simp only [List.length_cons] at enough ⊢
      refine ⟨fuel - 1, by omega, ?_⟩
      obtain ⟨left, rfl⟩ : ∃ left, fuel = left + 1 := ⟨fuel - 1, by omega⟩
      rw [readStringBytes_escape (readEscape_numbered char control rest)]
      rfl
  | plain notQuote notBackslash notControl =>
      rw [List.flatMap_cons, List.flatMap_nil, List.append_nil] at enough ⊢
      have plain := isPlain_of_mem char notQuote notBackslash notControl
      obtain ⟨left, rfl⟩ : ∃ left, fuel = (String.utf8EncodeChar char).length + left :=
        ⟨_, (Nat.add_sub_cancel' enough).symm⟩
      exact ⟨left, by omega, readStringBytes_plain _ plain left reversed rest⟩

theorem readStringBytes_contentBytes (chars : List Char) (fuel : Nat)
    (reversed rest : List UInt8) (enough : (contentBytes chars).length < fuel) :
    readStringBytes fuel reversed (contentBytes chars ++ 0x22 :: rest) =
      .ok (reversed.reverse ++ chars.flatMap String.utf8EncodeChar, rest) := by
  induction chars generalizing fuel reversed with
  | nil =>
      obtain ⟨left, rfl⟩ : ∃ left, fuel = left + 1 := ⟨fuel - 1, by omega⟩
      simp [contentBytes, readStringBytes]
  | cons char chars induction =>
      have length : (contentBytes (char :: chars)).length =
          (charBytes char).length + (contentBytes chars).length := by
        simp [contentBytes]
      rcases readStringBytes_charBytes char fuel reversed (contentBytes chars ++ 0x22 :: rest)
        (by omega) with ⟨left, leftEnough, step⟩
      have bytes : contentBytes (char :: chars) ++ 0x22 :: rest =
          charBytes char ++ (contentBytes chars ++ 0x22 :: rest) := by
        simp [contentBytes]
      rw [bytes, step, induction left _ (by omega)]
      simp

theorem readString_written (text : String) (rest : List UInt8) :
    readString (contentBytes text.toList ++ 0x22 :: rest) = .ok (text, rest) := by
  have read := readStringBytes_contentBytes text.toList
    (contentBytes text.toList ++ 0x22 :: rest).length [] rest (by simp)
  rw [readString, read]
  simp only [List.reverse_nil, List.nil_append, ← Utf8.encode_eq_flatMap, Utf8.decode_encode]

example : stringText "a\"\n\x01é" = "\"a\\\"\\n\\u0001é\"" := by decide

end AuthServer.Json
