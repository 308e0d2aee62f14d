import AuthServer.Text.Numeral

/-!
Numerals in base ten. What is read as a number is exactly what is written with digits, and the
number is the one that the digits stand for; a number that is written is read as itself, also in
base sixteen.
-/

namespace AuthServer.Text

/-! ## Digits -/

theorem readDigits_eq_some_iff {value result : Nat} {chars : List Char} :
    readDigits value chars = some result ↔
      (∀ char ∈ chars, char.isDigit = true) ∧ result = Nat.ofDigitChars 10 chars value := by
  induction chars generalizing value with
  | nil => simpa [readDigits] using eq_comm
  | cons char chars induction =>
      rw [readDigits, digitValue?, List.forall_mem_cons, Nat.ofDigitChars_cons]
      by_cases isDigit : char.isDigit = true
      · simpa [isDigit] using induction
      · simp [isDigit]

/-- Characters that are digits, one at least, and the number that they stand for. -/
structure AreDigits (digits : List Char) (value : Nat) : Prop where
  nonempty : digits ≠ []
  isDigit : ∀ char ∈ digits, char.isDigit = true
  value_eq : value = Nat.ofDigitChars 10 digits 0

namespace AreDigits

variable {digits : List Char} {value : Nat}

theorem readDigits (are : AreDigits digits value) : Text.readDigits 0 digits = some value :=
  readDigits_eq_some_iff.mpr ⟨are.isDigit, are.value_eq⟩

theorem toDigits (value : Nat) : AreDigits (Nat.toDigits 10 value) value where
  nonempty := Nat.toDigits_ne_nil
  isDigit _ member := Nat.isDigit_of_mem_toDigits (by decide) (by decide) member
  value_eq := Nat.ofDigitChars_ten_toDigits.symm

theorem padded (are : AreDigits digits value) (width : Nat) :
    AreDigits (List.replicate width '0' ++ digits) value where
  nonempty := List.append_ne_nil_of_right_ne_nil _ are.nonempty
  isDigit char member := by
    rcases List.mem_append.mp member with zero | digit
    · rw [List.eq_of_mem_replicate zero]
      decide
    · exact are.isDigit char digit
  value_eq := by
    rw [Nat.ofDigitChars_append, Nat.ofDigitChars_replicate_zero, Nat.mul_zero, are.value_eq]

theorem append_ne_cons (are : AreDigits digits value) {mark : Char}
    (other : mark.isDigit = false) {after rest : List Char} : digits ++ after ≠ mark :: rest := by
  intro starts
  rcases List.append_eq_cons_iff.mp starts with ⟨none, -⟩ | ⟨others, first, -⟩
  · exact are.nonempty none
  · have digit := are.isDigit mark (by simp [first])
    simp [digit] at other

end AreDigits

/-! ### Written digits -/

theorem digitValue?_eq_some {char : Char} {digit : Nat} (known : digitValue? char = some digit) :
    digit < 10 ∧ Nat.toDigits 10 digit = [char] := by
  unfold digitValue? at known
  split at known
  next isDigit =>
    obtain ⟨low, high⟩ := Char.isDigit_iff_toNat.mp isDigit
    cases known
    have small : char.toNat - '0'.toNat < 10 := by
      simp only [show '0'.toNat = 48 from rfl, show '9'.toNat = 57 from rfl] at low high ⊢
      omega
    refine ⟨small, ?_⟩
    rw [Nat.toDigits_of_lt_base small, List.singleton_inj, ← Char.toNat_inj,
      Nat.toNat_digitChar_of_lt_ten small]
    exact Nat.add_sub_cancel' low
  next => cases known

/-- What is read after a number without leading zeros are the digits that follow in the result. -/
theorem toDigits_append_of_readDigits {value result : Nat} {chars : List Char}
    (positive : 0 < value) (read : readDigits value chars = some result) :
    Nat.toDigits 10 value ++ chars = Nat.toDigits 10 result := by
  induction chars generalizing value with
  | nil =>
      cases read
      exact List.append_nil _
  | cons char chars induction =>
      rw [readDigits] at read
      cases known : digitValue? char with
      | none =>
          rw [known] at read
          cases read
      | some digit =>
          rw [known] at read
          obtain ⟨small, written⟩ := digitValue?_eq_some known
          rw [← induction (by omega) read, ← List.singleton_append, ← written,
            ← Nat.toDigits_append_toDigits (by decide) positive small, List.append_assoc]

theorem eq_toDigits_of_readDigits {char : Char} {rest : List Char} {value : Nat}
    (unpadded : char = '0' → rest = []) (read : readDigits 0 (char :: rest) = some value) :
    char :: rest = Nat.toDigits 10 value := by
  rw [readDigits] at read
  cases known : digitValue? char with
  | none =>
      rw [known] at read
      cases read
  | some digit =>
      rw [known] at read
      simp only [Nat.mul_zero, Nat.zero_add] at read
      obtain ⟨-, written⟩ := digitValue?_eq_some known
      rcases Nat.eq_zero_or_pos digit with rfl | positive
      · cases written
        rw [unpadded rfl] at read ⊢
        cases read
        rfl
      · rw [← toDigits_append_of_readDigits positive read, written, List.singleton_append]

/-! ### Base sixteen -/

theorem readHexDigits_append {value middle : Nat} {front : List Char}
    (first : readHexDigits value front = some middle) (back : List Char) :
    readHexDigits value (front ++ back) = readHexDigits middle back := by
  induction front generalizing value with
  | nil =>
      cases first
      rfl
  | cons char front induction =>
      rw [readHexDigits] at first
      rw [List.cons_append, readHexDigits]
      cases known : hexValue? char with
      | none =>
          rw [known] at first
          cases first
      | some digit =>
          rw [known] at first
          exact induction first

theorem readHexDigits_toDigits (value : Nat) :
    readHexDigits 0 (Nat.toDigits 16 value) = some value := by
  have digit : ∀ before, ∀ digit < 16, readHexDigits before [Nat.digitChar digit] =
      some (16 * before + digit) := by
    intro before digit small
    have known : ∀ digit < 16, hexValue? (Nat.digitChar digit) = some digit := by decide
    simp only [readHexDigits, known digit small]
  induction value using Nat.strongRecOn with
  | ind value induction =>
      by_cases small : value < 16
      · rw [Nat.toDigits_of_lt_base small, digit 0 value small, Nat.mul_zero, Nat.zero_add]
      · have last : value % 16 < 16 := Nat.mod_lt _ (by decide)
        have written := Nat.toDigits_append_toDigits (by decide : 1 < 16)
          (by omega : 0 < value / 16) last
        rw [Nat.div_add_mod] at written
        rw [← written, readHexDigits_append (induction _ (by omega)),
          Nat.toDigits_of_lt_base last, digit _ _ last, Nat.div_add_mod]

theorem not_mem_of_readHexDigits {value result : Nat} {chars : List Char} {mark : Char}
    (read : readHexDigits value chars = some result) (other : hexValue? mark = none) :
    mark ∉ chars := by
  induction chars generalizing value with
  | nil => exact List.not_mem_nil
  | cons char chars induction =>
      rw [readHexDigits] at read
      cases known : hexValue? char with
      | none =>
          rw [known] at read
          cases read
      | some digit =>
          rw [known] at read
          rw [List.mem_cons, not_or]
          refine ⟨?_, induction read⟩
          rintro rfl
          cases known.symm.trans other

/-! ## Numerals -/

def IsNumeral (text : String) (value : Nat) : Prop :=
  ∃ digits, AreDigits digits value ∧ (text.toList = digits ∨ text.toList = '+' :: digits)

theorem dropPlus_of_isDigit {digits : List Char}
    (allDigits : ∀ char ∈ digits, char.isDigit = true) : dropPlus digits = digits := by
  unfold dropPlus
  split
  · exact absurd (allDigits '+' (by simp)) (by decide)
  · rfl

theorem dropPlus_cases (chars : List Char) :
    dropPlus chars = chars ∨ chars = '+' :: dropPlus chars := by
  unfold dropPlus
  split
  · exact .inr rfl
  · exact .inl rfl

theorem readNumeral_eq (text : String) :
    readNumeral text =
      if dropPlus text.toList = [] then none else readDigits 0 (dropPlus text.toList) := by
  unfold readNumeral
  split
  · rename_i nothing
    rw [if_pos nothing]
  · rename_i some
    rw [if_neg some]

theorem readNumeral_eq_some_iff {text : String} {value : Nat} :
    readNumeral text = some value ↔ IsNumeral text value := by
  rw [readNumeral_eq]
  constructor
  · intro done
    split at done
    · cases done
    · rename_i nonempty
      rcases readDigits_eq_some_iff.mp done with ⟨isDigit, valueIs⟩
      exact ⟨_, ⟨nonempty, isDigit, valueIs⟩, (dropPlus_cases text.toList).imp Eq.symm id⟩
  · rintro ⟨digits, are, written⟩
    have dropped : dropPlus text.toList = digits := by
      rcases written with written | written
      · rw [written, dropPlus_of_isDigit are.isDigit]
      · rw [written]
        rfl
    rw [dropped, if_neg are.nonempty, are.readDigits]

theorem IsNumeral.unique {text : String} {value other : Nat} (first : IsNumeral text value)
    (second : IsNumeral text other) : value = other :=
  Option.some.inj ((readNumeral_eq_some_iff.mpr first).symm.trans
    (readNumeral_eq_some_iff.mpr second))

theorem readNumeralBelow_eq_some_iff {bound value : Nat} {text : String} :
    readNumeralBelow bound text = some value ↔ IsNumeral text value ∧ value < bound := by
  rw [readNumeralBelow, Option.filter_eq_some_iff, readNumeral_eq_some_iff, decide_eq_true_iff]

example : readNumeral "+0080" = some 80 := by decide

end AuthServer.Text
