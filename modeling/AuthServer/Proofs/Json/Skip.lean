import AuthServer.Proofs.Json.Record

/-!
What a typed reader reads can be passed over: both stop at the same byte. Passing over a value does
not know what it is for, so that this has to hold whatever containers are open around the value.
-/

namespace AuthServer.Json

theorem skipBlanks_eq_nil_or_cons (bytes : List UInt8) :
    skipBlanks bytes = [] ∨
      ∃ byte rest, skipBlanks bytes = byte :: rest ∧ isBlank byte = false := by
  induction bytes with
  | nil => exact .inl rfl
  | cons byte rest induction =>
      rw [skipBlanks]
      split
      · exact induction
      · exact .inr ⟨byte, rest, rfl, by simp_all⟩

@[simp] theorem skipBlanks_skipBlanks (bytes : List UInt8) :
    skipBlanks (skipBlanks bytes) = skipBlanks bytes := by
  rcases skipBlanks_eq_nil_or_cons bytes with none | ⟨byte, rest, first, notBlank⟩
  · rw [none, skipBlanks]
  · rw [first, skipBlanks_of_not_blank notBlank]

theorem length_skipBlanks_le (bytes : List UInt8) : (skipBlanks bytes).length ≤ bytes.length := by
  induction bytes with
  | nil => simp [skipBlanks]
  | cons byte rest induction =>
      rw [skipBlanks]
      split
      · exact Nat.le_succ_of_le induction
      · exact Nat.le_refl _

theorem length_lt_of_skipBlanks {bytes rest : List UInt8} {byte : UInt8}
    (first : skipBlanks bytes = byte :: rest) : rest.length < bytes.length := by
  have bound := length_skipBlanks_le bytes
  rw [first] at bound
  exact bound

theorem wrongType_ne_ok {α : Type} (expected : String) (byte : UInt8) (rest : List UInt8)
    (value : α) : wrongType expected byte rest ≠ .ok value := by
  intro equal
  unfold wrongType at equal
  simp only [failBefore, failAt] at equal
  repeat' split at equal
  all_goals cases equal

/-! ## Values -/

/-- With any containers open around it, a value at the front of `bytes` is passed over up to `rest`,
in at most three steps for each of its bytes. -/
def PassesOver (bytes rest : List UInt8) : Prop :=
  rest.length < bytes.length ∧
    ∀ frames fuel, 3 * bytes.length + 1 ≤ fuel →
      ∃ left, 3 * rest.length + 1 ≤ left ∧
        skipOpen fuel .value frames bytes = skipOpen left .next frames rest

namespace PassesOver

theorem skipValue {bytes rest : List UInt8} (passes : PassesOver bytes rest) :
    skipValue bytes = .ok rest := by
  rcases passes.2 [] (3 * bytes.length + 2) (by omega) with ⟨left, enough, same⟩
  obtain ⟨less, rfl⟩ : ∃ less, left = less + 1 := ⟨left - 1, by omega⟩
  rw [Json.skipValue, same, skipOpen]
  simp

theorem of_skipBlanks {bytes rest : List UInt8} (passes : PassesOver (skipBlanks bytes) rest) :
    PassesOver bytes rest := by
  have bound := length_skipBlanks_le bytes
  refine ⟨Nat.lt_of_lt_of_le passes.1 bound, ?_⟩
  intro frames fuel enough
  rcases passes.2 frames fuel (by omega) with ⟨left, leftEnough, same⟩
  refine ⟨left, leftEnough, ?_⟩
  rw [← same]
  cases fuel with
  | zero => omega
  | succ fuel => simp only [skipOpen, skipBlanks_skipBlanks]

theorem of_skipScalar {bytes inner rest : List UInt8} {byte : UInt8}
    (first : skipBlanks bytes = byte :: inner) (notList : byte ≠ 0x5B) (notObject : byte ≠ 0x7B)
    (skips : skipScalar byte inner = .ok rest) (shorter : rest.length ≤ inner.length) :
    PassesOver bytes rest := by
  have bound := length_lt_of_skipBlanks first
  refine ⟨by omega, ?_⟩
  intro frames fuel enough
  obtain ⟨left, rfl⟩ : ∃ left, fuel = left + 1 := ⟨fuel - 1, by omega⟩
  refine ⟨left, by omega, ?_⟩
  rw [skipOpen, first]
  simp only [if_neg notList, if_neg notObject, skips]

end PassesOver

/-! ## Words and texts -/

theorem length_of_readWord {letters bytes rest : List UInt8}
    (read : readWord letters bytes = .ok rest) : bytes.length = letters.length + rest.length := by
  induction letters generalizing bytes with
  | nil =>
      rw [readWord] at read
      cases read
      simp
  | cons letter letters induction =>
      cases bytes with
      | nil => cases read
      | cons byte bytes =>
          rw [readWord] at read
          split at read
          · have others := induction read
            simp only [List.length_cons]
            omega
          · cases read

theorem length_of_readHexDigits {bytes rest : List UInt8} {value : Nat}
    (read : readHexDigits bytes = .ok (value, rest)) : bytes.length = rest.length + 4 := by
  unfold readHexDigits at read
  split at read
  · split at read
    · cases read
      simp
    · cases read
  · cases read

theorem skipString_hexDigits {digits rest : List UInt8} {value : Nat}
    (read : readHexDigits digits = .ok (value, rest)) (fuel : Nat) :
    skipString (fuel + 1) (0x5C :: 0x75 :: digits) = skipString fuel rest := by
  rw [skipString]
  simp only [if_neg (show (0x5C : UInt8) ≠ 0x22 by decide), if_true, read]

theorem skipString_codePoint {digits rest : List UInt8} {value : Nat}
    (read : readCodePoint digits = .ok (value, rest)) (fuel : Nat) (enough : digits.length < fuel) :
    rest.length < digits.length ∧ ∃ left, rest.length ≤ left ∧
      skipString (fuel + 1) (0x5C :: 0x75 :: digits) = skipString left rest := by
  unfold readCodePoint at read
  cases hex : readHexDigits digits with
  | error failure => simp [hex] at read
  | ok pair =>
      rcases pair with ⟨lead, afterLead⟩
      have leadLength := length_of_readHexDigits hex
      simp only [hex] at read
      split at read
      · cases read
      split at read
      · unfold readTrail at read
        split at read
        · rename_i others
          cases trailHex : readHexDigits others with
          | error failure => simp [trailHex] at read
          | ok pair =>
              rcases pair with ⟨trail, afterTrail⟩
              have trailLength := length_of_readHexDigits trailHex
              simp only [trailHex] at read
              simp only [List.length_cons] at leadLength
              split at read
              · simp only [Except.ok.injEq, Prod.mk.injEq] at read
                rcases read with ⟨-, rfl⟩
                obtain ⟨left, rfl⟩ : ∃ left, fuel = left + 1 := ⟨fuel - 1, by omega⟩
                refine ⟨by omega, left, by omega, ?_⟩
                rw [skipString_hexDigits hex, skipString_hexDigits trailHex]
              · cases read
        all_goals cases read
      · cases read
        exact ⟨by omega, fuel, by omega, skipString_hexDigits hex fuel⟩

/-- An escape that is read is passed over, in no more steps than it has bytes. -/
theorem skipString_escape {bytes content rest : List UInt8}
    (read : readEscape bytes = .ok (content, rest)) (fuel : Nat) (enough : bytes.length ≤ fuel) :
    rest.length < bytes.length ∧ ∃ left, rest.length ≤ left ∧
      skipString (fuel + 1) (0x5C :: bytes) = skipString left rest := by
  unfold readEscape at read
  split at read
  · cases read
  · rename_i digits
    cases point : readCodePoint digits with
    | error failure => simp [point] at read
    | ok pair =>
        rcases pair with ⟨value, after⟩
        simp only [point, Except.ok.injEq, Prod.mk.injEq] at read
        rcases read with ⟨-, rfl⟩
        rcases skipString_codePoint point fuel enough with ⟨shorter, skips⟩
        exact ⟨Nat.lt_succ_of_lt shorter, skips⟩
  · rename_i letter others notCodePoint
    split at read
    · rename_i byte simple
      cases read
      refine ⟨by simp, fuel, by simp at enough; omega, ?_⟩
      rw [skipString]
      · simp only [if_neg (show (0x5C : UInt8) ≠ 0x22 by decide), if_true, simple,
          Option.isSome_some]
      · exact notCodePoint
    · cases read

theorem skipString_of_readStringBytes {fuel : Nat} {reversed bytes content rest : List UInt8}
    (read : readStringBytes fuel reversed bytes = .ok (content, rest)) (left : Nat)
    (enough : bytes.length ≤ left) :
    skipString left bytes = .ok rest ∧ rest.length < bytes.length := by
  induction fuel generalizing reversed bytes left with
  | zero => cases read
  | succ fuel induction =>
      cases bytes with
      | nil => cases read
      | cons byte bytes =>
          simp only [List.length_cons] at enough ⊢
          obtain ⟨less, rfl⟩ : ∃ less, left = less + 1 := ⟨left - 1, by omega⟩
          rw [readStringBytes] at read
          split at read
          · rename_i quote
            cases read
            exact ⟨by simp only [skipString, if_pos quote], by omega⟩
          split at read
          · rename_i notQuote backslash
            subst backslash
            cases escape : readEscape bytes with
            | error failure => simp [escape] at read
            | ok pair =>
                rcases pair with ⟨resolved, after⟩
                simp only [escape] at read
                rcases skipString_escape escape less (by omega) with
                  ⟨shorter, step, stepEnough, same⟩
                rcases induction read step stepEnough with ⟨skips, bound⟩
                exact ⟨by rw [same, skips], by omega⟩
          split at read
          · cases read
          · rename_i notQuote notBackslash notControl
            rcases induction read less (by omega) with ⟨skips, bound⟩
            refine ⟨?_, by omega⟩
            unfold skipString
            simp only [if_neg notQuote, if_neg notBackslash, if_neg notControl, skips]

theorem skipString_of_readString {bytes rest : List UInt8} {text : String}
    (read : readString bytes = .ok (text, rest)) :
    skipString bytes.length bytes = .ok rest ∧ rest.length < bytes.length := by
  unfold readString at read
  cases content : readStringBytes bytes.length [] bytes with
  | error failure => simp [content] at read
  | ok pair =>
      rcases pair with ⟨inner, after⟩
      simp only [content] at read
      split at read
      · cases read
        exact skipString_of_readStringBytes content bytes.length (Nat.le_refl _)
      · cases read

theorem readText_cases {expected text : String} {bytes rest : List UInt8}
    (read : readText expected bytes = .ok (text, rest)) :
    ∃ inner, skipBlanks bytes = 0x22 :: inner ∧ readString inner = .ok (text, rest) := by
  unfold readText at read
  split at read
  · cases read
  · rename_i byte inner first
    split at read
    · rename_i quote
      exact ⟨inner, by rw [first, quote], read⟩
    · exact absurd read (wrongType_ne_ok _ _ _ _)

theorem passesOver_of_readText {expected text : String} {bytes rest : List UInt8}
    (read : readText expected bytes = .ok (text, rest)) : PassesOver bytes rest := by
  rcases readText_cases read with ⟨inner, first, string⟩
  have skips := skipString_of_readString string
  refine .of_skipScalar first (by decide) (by decide) ?_ (Nat.le_of_lt skips.2)
  exact skips.1

/-! ## Integers as they are written -/

theorem skipDigits_digitBytes (value : Nat) (rest : List UInt8) :
    skipDigits (digitBytes value ++ rest) = skipDigits rest := by
  induction value using Nat.strongRecOn generalizing rest with
  | ind value induction =>
      by_cases small : value < 10
      · rw [digitBytes_of_lt value small, List.singleton_append, skipDigits,
          digit?_digitByte value small]
        rfl
      · rw [digitBytes_of_le value (by omega), List.append_assoc, List.singleton_append,
          induction (value / 10) (by omega), skipDigits,
          digit?_digitByte (value % 10) (by omega)]
        rfl

theorem skipDigits_of_afterValue {rest : List UInt8} (after : AfterValue rest) :
    skipDigits rest = rest := by
  cases after <;> rfl

theorem skipAfterInteger_of_afterValue {rest : List UInt8} (after : AfterValue rest) :
    skipAfterInteger rest = .ok rest := by
  cases after <;> rfl

theorem skipUnsigned_of_afterValue (value : Nat) {rest : List UInt8} (after : AfterValue rest) :
    skipUnsigned (digitBytes value ++ rest) = .ok rest := by
  rcases Nat.eq_zero_or_pos value with rfl | someValue
  · rw [digitBytes_of_lt 0 (by omega)]
    cases after <;> rfl
  · have skips := skipDigits_digitBytes value rest
    rcases exists_digitBytes value with ⟨digit, bytes, small, positive, written⟩
    rw [written, List.cons_append] at skips ⊢
    rw [skipDigits, digit?_digitByte digit small, skipDigits_of_afterValue after] at skips
    rw [skipUnsigned]
    · simp only [digit?_digitByte digit small, Option.isSome_some, if_true] at skips ⊢
      rw [skips, skipAfterInteger_of_afterValue after]
    · exact fun equal => digitByte_ne_zero digit small (positive someValue) equal

theorem digitByte_not_mem (digit : Nat) (small : digit < 10) :
    digitByte digit ∉ [0x6E, 0x74, 0x66, 0x2D, 0x5B, 0x7B] := by
  revert digit
  decide

theorem passesOver_toString (value : Int) {rest : List UInt8} (after : AfterValue rest) :
    PassesOver (Utf8.encode (toString value) ++ rest) rest := by
  cases value with
  | ofNat magnitude =>
      have skips := skipUnsigned_of_afterValue magnitude after
      rcases exists_digitBytes magnitude with ⟨digit, bytes, small, -, written⟩
      rw [encode_toString_ofNat]
      rw [written, List.cons_append] at skips ⊢
      have others := digitByte_not_mem digit small
      simp only [List.mem_cons, List.not_mem_nil, or_false, not_or] at others
      rcases others with ⟨notNull, notTrue, notFalse, notMinus, notList, notObject⟩
      refine .of_skipScalar (skipBlanks_of_not_blank (isBlank_digitByte digit small) _) notList
        notObject ?_ (by simp)
      simp only [skipScalar, if_neg notNull, if_neg notTrue, if_neg notFalse, if_neg notMinus,
        digit?_digitByte digit small, Option.isSome_some, if_true, skips]
  | negSucc less =>
      rw [encode_toString_negSucc, List.cons_append]
      exact .of_skipScalar (skipBlanks_of_not_blank (by decide) _) (by decide) (by decide)
        (skipUnsigned_of_afterValue (less + 1) after) (by simp)

/-! ## Names and lists -/

theorem readName_cases {α : Type} {choice : Choice α} {bytes rest : List UInt8} {value : α}
    (read : choice.readName bytes = .ok (value, rest)) :
    ∃ name, readText "variant identifier" bytes = .ok (name, rest) := by
  unfold Choice.readName at read
  cases text : readText "variant identifier" bytes with
  | error failure => simp [text] at read
  | ok pair =>
      rcases pair with ⟨name, after⟩
      simp only [text] at read
      split at read
      · cases read
        exact ⟨name, rfl⟩
      · cases read

theorem skipColon_cases {bytes rest : List UInt8} (skips : skipColon bytes = .ok rest) :
    skipBlanks bytes = 0x3A :: rest := by
  unfold skipColon at skips
  split at skips
  · cases skips
  · rename_i byte inner first
    split at skips
    · rename_i colon
      cases skips
      rw [first, colon]
    · cases skips

theorem readNull_cases {bytes rest : List UInt8} (read : readNull bytes = .ok ((), rest)) :
    ∃ inner, skipBlanks bytes = 0x6E :: inner ∧ readWord nullTail inner = .ok rest := by
  unfold readNull at read
  split at read
  · cases read
  · rename_i byte inner first
    split at read
    · rename_i letter
      cases word : readWord nullTail inner with
      | error failure => simp [word] at read
      | ok after =>
          simp only [word] at read
          cases read
          exact ⟨inner, by rw [first, letter], word⟩
    · exact absurd read (wrongType_ne_ok _ _ _ _)

theorem passesOver_of_readNull {bytes rest : List UInt8}
    (read : readNull bytes = .ok ((), rest)) : PassesOver bytes rest := by
  rcases readNull_cases read with ⟨inner, first, word⟩
  have letters := length_of_readWord word
  exact .of_skipScalar first (by decide) (by decide) word (by omega)

/-- The key and the colon in front of a member are passed over together. -/
theorem skipKey_of_readText {expected name : String} {bytes afterName rest : List UInt8}
    (read : readText expected bytes = .ok (name, afterName))
    (colon : skipColon afterName = .ok rest) :
    skipKey bytes = .ok rest ∧ rest.length < bytes.length := by
  rcases readText_cases read with ⟨inner, first, string⟩
  have skips := skipString_of_readString string
  have bound := length_lt_of_skipBlanks first
  have mark := skipColon_cases colon
  have markBound := length_lt_of_skipBlanks mark
  refine ⟨?_, by omega⟩
  simp only [skipKey, first, if_true, skips.1, mark]

theorem passesOver_of_readKeyed {α : Type} {choice : Choice α} {bytes inner rest : List UInt8}
    {value : α} (first : skipBlanks bytes = 0x7B :: inner)
    (read : choice.readKeyed inner = .ok (value, rest)) : PassesOver bytes rest := by
  unfold Choice.readKeyed at read
  cases nameRead : choice.readName inner with
  | error failure => simp [nameRead] at read
  | ok pair =>
    rcases pair with ⟨named, afterName⟩
    simp only [nameRead] at read
    cases colon : skipColon afterName with
    | error failure => simp [colon] at read
    | ok afterColon =>
      simp only [colon] at read
      cases null : readNull afterColon with
      | error failure => simp [null] at read
      | ok pair =>
        obtain ⟨_, afterNull⟩ := pair
        simp only [null] at read
        split at read
        · rename_i after brace
          cases read
          rcases readName_cases nameRead with ⟨name, text⟩
          rcases readText_cases text with ⟨_, quote, _⟩
          rcases skipKey_of_readText text colon with ⟨key, keyBound⟩
          have keyAgain : skipKey (skipBlanks inner) = .ok afterColon := by
            rw [← key, skipKey, skipBlanks_skipBlanks, skipKey]
          have nullPasses := passesOver_of_readNull null
          have bound := length_lt_of_skipBlanks first
          have braceBound := length_lt_of_skipBlanks brace
          have nullBound := nullPasses.1
          refine ⟨by omega, ?_⟩
          intro frames fuel enough
          obtain ⟨fuel, rfl⟩ : ∃ less, fuel = less + 2 := ⟨fuel - 2, by omega⟩
          rcases nullPasses.2 (.object :: frames) fuel (by omega) with ⟨left, leftEnough, same⟩
          obtain ⟨left, rfl⟩ : ∃ less, left = less + 1 := ⟨left - 1, by omega⟩
          refine ⟨left, by omega, ?_⟩
          rw [quote] at keyAgain
          have entered : skipOpen (fuel + 2) .value frames bytes =
              skipOpen fuel .value (.object :: frames) afterColon := by
            rw [skipOpen, first]
            simp [skipOpen, quote, keyAgain]
          have leaves : skipOpen (left + 1) .next (.object :: frames) afterNull =
              skipOpen left .next frames rest := by
            simp [skipOpen, brace]
          rw [entered, same, leaves]
        all_goals cases read

theorem passesOver_of_readChoice {α : Type} {choice : Choice α} {depth : Nat}
    {bytes rest : List UInt8} {value : α}
    (read : choice.read depth bytes = .ok (value, rest)) : PassesOver bytes rest := by
  unfold Choice.read at read
  split at read
  · cases read
  · rename_i byte inner first
    split at read
    · rename_i brace
      unfold enter at read
      split at read
      · cases read
      · exact passesOver_of_readKeyed (by rw [first, brace]) read
    split at read
    · rcases readName_cases read with ⟨name, text⟩
      apply PassesOver.of_skipBlanks
      rw [first]
      exact passesOver_of_readText text
    · cases read

/-- Where the reader of a list goes to its next item, so does the one who passes over it. -/
theorem skipOpen_of_nextItem {isFirst : Bool} {bytes rest : List UInt8}
    (next : nextItem isFirst bytes = .ok (true, rest)) (frames : List Frame) (fuel : Nat) :
    ∃ after, rest = skipBlanks after ∧ after.length ≤ bytes.length ∧
      (isFirst = false → after.length < bytes.length) ∧
      skipOpen (fuel + 1) (if isFirst then .first else .next) (.list :: frames) bytes =
        skipOpen fuel .value (.list :: frames) after := by
  unfold nextItem at next
  split at next
  · cases next
  · rename_i byte inner first
    have bound := length_lt_of_skipBlanks first
    split at next
    · cases next
    rename_i notEnd
    split at next
    · rename_i isFirst
      cases next
      refine ⟨byte :: inner, ?_, bound, by simp [isFirst], ?_⟩
      · rw [← first, skipBlanks_skipBlanks]
      · simp [skipOpen, first, notEnd, isFirst]
    rename_i notFirst
    split at next
    · rename_i comma
      split at next
      · cases next
      · rename_i after others second
        split at next
        · cases next
        · cases next
          refine ⟨inner, second.symm, by omega, fun _ => bound, ?_⟩
          subst comma
          simp [skipOpen, first, notFirst]
    · cases next

theorem skipOpen_of_listEnd {isFirst : Bool} {bytes rest after : List UInt8}
    (next : nextItem isFirst bytes = .ok (false, rest)) (leaves : leaveList rest = (none, after))
    (frames : List Frame) (fuel : Nat) :
    after.length < bytes.length ∧
      skipOpen (fuel + 1) (if isFirst then .first else .next) (.list :: frames) bytes =
        skipOpen fuel .next frames after := by
  unfold nextItem at next
  split at next
  · cases next
  · rename_i byte inner first
    split at next
    · rename_i bracket
      cases next
      subst bracket
      rw [leaveList, skipBlanks_of_not_blank (by decide)] at leaves
      cases leaves
      refine ⟨length_lt_of_skipBlanks first, ?_⟩
      cases isFirst <;> simp [skipOpen, first]
    split at next
    · cases next
    split at next
    · split at next
      · cases next
      · split at next
        · cases next
        · cases next
    · cases next

theorem skipOpen_of_readItems {α : Type} {read : Reader α}
    (each : ∀ bytes item rest, read bytes = .ok (item, rest) → PassesOver bytes rest)
    {fuel : Nat} {reversed items : List α} {bytes rest after : List UInt8}
    (readAll : readItems read fuel reversed bytes = .ok (items, rest))
    (leaves : leaveList rest = (none, after)) (frames : List Frame) (steps : Nat)
    (enough : 3 * bytes.length + (if reversed.isEmpty then 2 else 1) ≤ steps) :
    after.length < bytes.length ∧ ∃ left, 3 * after.length + 1 ≤ left ∧
      skipOpen steps (if reversed.isEmpty then .first else .next) (.list :: frames) bytes =
        skipOpen left .next frames after := by
  induction fuel generalizing reversed bytes steps with
  | zero => cases readAll
  | succ fuel induction =>
      obtain ⟨steps, rfl⟩ : ∃ less, steps = less + 1 := ⟨steps - 1, by split at enough <;> omega⟩
      rw [readItems] at readAll
      cases next : nextItem reversed.isEmpty bytes with
      | error failure => simp [next] at readAll
      | ok pair =>
          rcases pair with ⟨_ | _, following⟩
          · simp only [next, Except.ok.injEq, Prod.mk.injEq] at readAll
            rcases readAll with ⟨-, rfl⟩
            rcases skipOpen_of_listEnd next leaves frames steps with ⟨bound, same⟩
            exact ⟨bound, steps, by split at enough <;> omega, same⟩
          · simp only [next] at readAll
            cases item : read following with
            | error failure => simp [item] at readAll
            | ok pair =>
                rcases pair with ⟨value, afterItem⟩
                simp only [item] at readAll
                rcases skipOpen_of_nextItem next frames steps with
                  ⟨start, rfl, bound, laterBound, same⟩
                have passes := (each _ _ _ item).of_skipBlanks
                have itemBound := passes.1
                have itemEnough : 3 * start.length + 1 ≤ steps := by
                  cases isFirst : reversed.isEmpty with
                  | true =>
                      simp only [isFirst, if_true] at enough
                      omega
                  | false =>
                      have less := laterBound isFirst
                      simp only [isFirst, Bool.false_eq_true, if_false] at enough
                      omega
                rcases passes.2 (.list :: frames) steps itemEnough with
                  ⟨middle, middleEnough, sameItem⟩
                rcases induction readAll middle (by simpa using middleEnough) with
                  ⟨afterBound, left, leftEnough, sameRest⟩
                refine ⟨by omega, left, leftEnough, ?_⟩
                rw [same, sameItem]
                simpa using sameRest

theorem passesOver_of_readList {α : Type} {read : (depth : Nat) → Reader α} {depth : Nat}
    (each : ∀ depth bytes item rest, read depth bytes = .ok (item, rest) → PassesOver bytes rest)
    {bytes rest : List UInt8} {items : List α}
    (readAll : readList read depth bytes = .ok (items, rest)) : PassesOver bytes rest := by
  unfold readList at readAll
  split at readAll
  · cases readAll
  · rename_i byte inner first
    have bound := length_lt_of_skipBlanks first
    split at readAll
    · rename_i bracket
      subst bracket
      unfold enter at readAll
      split at readAll
      · cases readAll
      cases contents : readItems (read (depth - 1)) (inner.length + 1) [] inner with
      | error failure => simp [contents] at readAll
      | ok pair =>
          rcases pair with ⟨found, afterItems⟩
          simp only [contents] at readAll
          split at readAll
          · rename_i after leaves
            cases readAll
            have entered := fun frames steps enough =>
              skipOpen_of_readItems (each (depth - 1)) contents leaves frames steps enough
            refine ⟨by have := (entered [] _ (Nat.le_refl _)).1; omega, ?_⟩
            intro frames fuel enough
            obtain ⟨steps, rfl⟩ : ∃ less, fuel = less + 1 := ⟨fuel - 1, by omega⟩
            rcases (entered frames steps (by simp; omega)).2 with ⟨left, leftEnough, same⟩
            refine ⟨left, leftEnough, ?_⟩
            rw [← same, skipOpen, first]
            simp
          · cases readAll
    · exact absurd readAll (wrongType_ne_ok _ _ _ _)

end AuthServer.Json
