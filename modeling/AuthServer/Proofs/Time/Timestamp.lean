import AuthServer.Proofs.Outcome
import AuthServer.Proofs.Text.Numeral
import AuthServer.Proofs.Time.Calendar
import AuthServer.Proofs.Time.Instant
import AuthServer.Time.Timestamp
import Mathlib.Algebra.Group.Nat.Defs

/-!
Timestamps are read back from their text, whatever their year and however small their fraction is.
-/

namespace AuthServer.Timestamp

open Text (AreDigits)

/-! ## Padded numbers -/

theorem toList_padded (width value : Nat) : (padded width value).toList =
    List.replicate (width - (Nat.toDigits 10 value).length) '0' ++ Nat.toDigits 10 value := by
  rw [padded, String.toList_append, String.toList_ofList, Nat.toString_eq_repr, Nat.toList_repr,
    ← String.length_toList, Nat.toList_repr]

theorem areDigits_padded (width value : Nat) : AreDigits (padded width value).toList value := by
  rw [toList_padded]
  exact (AreDigits.toDigits value).padded _

theorem length_padded (width value : Nat) : (padded width value).toList.length =
    max width (Nat.toDigits 10 value).length := by
  rw [toList_padded, List.length_append, List.length_replicate]
  omega

theorem length_padded_of_lt {width value : Nat} (positive : 0 < width) (fits : value < 10 ^ width) :
    (padded width value).toList.length = width := by
  have short := (Nat.length_toDigits_le_iff (by decide) positive).mpr fits
  rw [length_padded, Nat.max_eq_left short]

/-! ## Parts -/

section Parts

variable {digits after : List Char} {value : Nat} {mark : Char}

theorem isBlank_of_isDigit {char : Char} (digit : char.isDigit = true) :
    Text.isBlank char = false := by
  have bounds : 48 ≤ char.toNat ∧ char.toNat ≤ 57 := by
    simpa [Char.isDigit, UInt32.le_iff_toNat_le] using digit
  simp only [Text.isBlank, Bool.or_eq_false_iff, Bool.and_eq_false_iff, decide_eq_false_iff_not,
    beq_eq_false_iff_ne]
  omega

theorem trimFront_digits (are : AreDigits digits value) (after : List Char) :
    Text.trimFront (digits ++ after) = digits ++ after := by
  cases digits with
  | nil => exact absurd rfl are.nonempty
  | cons first rest =>
      have notBlank := isBlank_of_isDigit (are.isDigit first (by simp))
      rw [Text.trimFront, List.cons_append, List.dropWhile_cons_of_neg (by simp [notBlank])]

theorem readDigits_written (are : AreDigits digits value) {width : Nat}
    (fits : digits.length ≤ width) (stops : mark.isDigit = false) :
    readDigits width (digits ++ mark :: after) = .ok (value, mark :: after) := by
  have taken : ((digits ++ mark :: after).take width).takeWhile Char.isDigit = digits := by
    rw [List.take_append, List.take_of_length_le fits,
      List.takeWhile_append_of_pos are.isDigit]
    cases width - digits.length with
    | zero => simp
    | succ more => simp [stops]
  cases digits with
  | nil => exact absurd rfl are.nonempty
  | cons first rest =>
      rw [List.cons_append] at taken ⊢
      rw [readDigits, if_pos (are.isDigit first (by simp))]
      simp only [taken, are.readDigits, Option.getD_some]
      rw [← List.cons_append, List.drop_left]

theorem readField_written {low high : Nat} (least : low ≤ value) (most : value ≤ high)
    (small : high < 100) (stops : mark.isDigit = false) :
    readField low high ((padded 2 value).toList ++ mark :: after) = .ok (value, mark :: after) := by
  have are := areDigits_padded 2 value
  have short := length_padded_of_lt (by decide : 0 < 2) (by omega : value < 10 ^ 2)
  rw [readField, trimFront_digits are, readDigits_written are (Nat.le_of_eq short) stops, ok_bind]
  exact if_pos ⟨least, most⟩

theorem skipMark_written (notBlank : Text.isBlank mark = false) :
    skipMark mark (mark :: after) = .ok after := by
  rw [skipMark, Text.trimFront, List.dropWhile_cons_of_neg (by simp [notBlank])]
  exact if_pos rfl

end Parts

/-! ## Years -/

/-- A year as it is written: four digits from 0 to 9999, and outside of that a sign and as many
digits as it takes, at least four. -/
def IsYear (chars : List Char) (year : Int) : Prop :=
  ∃ digits, AreDigits digits year.natAbs ∧
    (0 ≤ year ∧ year ≤ 9999 ∧ digits.length = 4 ∧ chars = digits ∨
      9999 < year ∧ 4 < digits.length ∧ chars = '+' :: digits ∨
      year < 0 ∧ 4 ≤ digits.length ∧ chars = '-' :: digits)

theorem isYear_yearText (year : Int) : IsYear (yearText year).toList year := by
  have wide := length_padded 4 year.natAbs
  refine ⟨(padded 4 year.natAbs).toList, areDigits_padded 4 year.natAbs, ?_⟩
  rw [yearText]
  by_cases plain : 0 ≤ year ∧ year ≤ 9999
  · have short := length_padded_of_lt (by decide : 0 < 4) (by omega : year.natAbs < 10 ^ 4)
    have same : year.toNat = year.natAbs := by omega
    rw [if_pos plain, same]
    exact .inl ⟨plain.1, plain.2, short, rfl⟩
  · rw [if_neg plain]
    by_cases negative : year < 0
    · rw [if_pos negative]
      exact .inr (.inr ⟨negative, by omega, String.toList_append⟩)
    · have long : ¬(Nat.toDigits 10 year.natAbs).length ≤ 4 := fun short => by
        have small := (Nat.length_toDigits_le_iff (by decide) (by decide)).mp short
        omega
      rw [if_neg negative]
      exact .inr (.inl ⟨by omega, by omega, String.toList_append⟩)

example : yearText (-5) = "-0005" := by decide +kernel

theorem readSigned_written {chars : List Char} {year : Int} (isYear : IsYear chars year)
    (after : List Char) : readSigned (chars ++ '-' :: after) = .ok (year, '-' :: after) := by
  have stops : '-'.isDigit = false := by decide
  rcases isYear with ⟨digits, are, written⟩
  have read : readDigits (digits ++ '-' :: after).length (digits ++ '-' :: after) =
      .ok (year.natAbs, '-' :: after) := readDigits_written are (by simp) stops
  rcases written with ⟨least, most, four, rfl⟩ | ⟨large, -, rfl⟩ | ⟨negative, -, rfl⟩
  · have same : (year.natAbs : Int) = year := by omega
    rw [readSigned, trimFront_digits are]
    split
    · rename_i minus
      exact absurd minus (are.append_ne_cons (by decide))
    · rename_i plus
      exact absurd plus (are.append_ne_cons (by decide))
    · rw [readDigits_written are (Nat.le_of_eq four) stops]
      exact congrArg (fun year => Except.ok (year, '-' :: after)) same
  · have same : (year.natAbs : Int) = year := by omega
    have signed : Text.trimFront ('+' :: (digits ++ '-' :: after)) =
        '+' :: (digits ++ '-' :: after) := List.dropWhile_cons_of_neg (by decide)
    rw [readSigned, List.cons_append, signed]
    change (readDigits (digits ++ '-' :: after).length (digits ++ '-' :: after)).map _ = _
    rw [read]
    exact congrArg (fun year => Except.ok (year, '-' :: after)) same
  · have same : -(year.natAbs : Int) = year := by omega
    have signed : Text.trimFront ('-' :: (digits ++ '-' :: after)) =
        '-' :: (digits ++ '-' :: after) := List.dropWhile_cons_of_neg (by decide)
    rw [readSigned, List.cons_append, signed]
    change (readDigits (digits ++ '-' :: after).length (digits ++ '-' :: after)).map _ = _
    rw [read]
    exact congrArg (fun year => Except.ok (year, '-' :: after)) same

theorem readYear_written {chars : List Char} {year : Int} (isYear : IsYear chars year)
    (fits : -0x80000000 ≤ year ∧ year < 0x80000000) (after : List Char) :
    readYear (chars ++ '-' :: after) = .ok (year, '-' :: after) := by
  rw [readYear, readSigned_written isYear, ok_bind]
  exact if_pos fits

/-! ## Fractions -/

/-- The nanoseconds past a second as they are written: nothing or a point with three, six or nine
digits, and no more of them than it takes. -/
def IsFraction (chars : List Char) (nanos : Nat) : Prop :=
  ∃ width ∈ [0, 3, 6, 9],
    (∀ other ∈ [0, 3, 6, 9], nanos % 10 ^ (9 - other) = 0 → width ≤ other) ∧
    (width = 0 ∧ nanos = 0 ∧ chars = [] ∨
      ∃ digits value, AreDigits digits value ∧ digits.length = width ∧ chars = '.' :: digits ∧
        nanos = value * 10 ^ (9 - width))

theorem exists_point {nanos width : Nat} (positive : 0 < width) (most : width ≤ 9)
    (bounded : nanos < 10 ^ 9) (whole : nanos % 10 ^ (9 - width) = 0) :
    ∃ digits value, AreDigits digits value ∧ digits.length = width ∧
      ("." ++ padded width (nanos / 10 ^ (9 - width))).toList = '.' :: digits ∧
      nanos = value * 10 ^ (9 - width) := by
  have fits : nanos / 10 ^ (9 - width) < 10 ^ width := by
    apply Nat.div_lt_of_lt_mul
    rw [← Nat.pow_add, Nat.sub_add_cancel most]
    exact bounded
  exact ⟨_, _, areDigits_padded width _, length_padded_of_lt positive fits,
    String.toList_append, (Nat.div_mul_cancel (Nat.dvd_of_mod_eq_zero whole)).symm⟩

theorem isFraction_fractionText {nanos : Nat} (bounded : nanos < 10 ^ 9) :
    IsFraction (fractionText nanos).toList nanos := by
  unfold fractionText IsFraction
  split
  · rename_i zero
    exact ⟨0, by simp, by simp, .inl ⟨rfl, zero, rfl⟩⟩
  · rename_i positive
    split
    · rename_i whole
      refine ⟨3, by simp, ?_, .inr (exists_point (by decide) (by decide) bounded whole)⟩
      simp
      omega
    · rename_i notThree
      split
      · rename_i whole
        refine ⟨6, by simp, ?_, .inr (exists_point (by decide) (by decide) bounded whole)⟩
        simp
        omega
      · rename_i notSix
        have point := exists_point (by decide : 0 < 9) (by decide) bounded (Nat.mod_one nanos)
        rw [Nat.sub_self, Nat.pow_zero, Nat.div_one] at point
        refine ⟨9, by simp, ?_, .inr point⟩
        simp
        omega

/-- Where the fraction starts, or the offset if there is none, the digits of the second end. -/
theorem IsFraction.exists_mark {chars : List Char} {nanos : Nat}
    (isFraction : IsFraction chars nanos) :
    ∃ mark after, chars ++ ['Z'] = mark :: after ∧ mark.isDigit = false := by
  rcases isFraction with ⟨width, -, -, ⟨-, -, rfl⟩ | ⟨digits, value, -, -, rfl, -⟩⟩
  · exact ⟨'Z', [], rfl, by decide⟩
  · exact ⟨'.', digits ++ ['Z'], rfl, by decide⟩

theorem readFraction_written {chars : List Char} {nanos : Nat}
    (isFraction : IsFraction chars nanos) :
    readFraction (chars ++ ['Z']) = .ok (nanos, ['Z']) := by
  rcases isFraction with ⟨width, member, -, ⟨-, rfl, rfl⟩ | ⟨digits, value, are, rfl, rfl, rfl⟩⟩
  · rfl
  · have most : digits.length ≤ 9 := by
      simp only [List.mem_cons, List.not_mem_nil, or_false] at member
      omega
    have width : (digits ++ ['Z']).length - ['Z'].length = digits.length := by simp
    rw [List.cons_append, readFraction, readDigits_written are most (by decide), ok_bind]
    dsimp only
    rw [width]
    rfl

/-! ## Timestamps -/

def date (timestamp : Timestamp) : Date :=
  Date.ofDays (timestamp.instant.seconds / 86400)

def secondOfDay (timestamp : Timestamp) : Nat :=
  (timestamp.instant.seconds % 86400).toNat

/-- The second as it is written, the sixtieth being a leap second. -/
def second (timestamp : Timestamp) : Nat :=
  timestamp.secondOfDay % 60 + if timestamp.isLeap then 1 else 0

def clock (timestamp : Timestamp) : List Char :=
  '-' :: (padded 2 timestamp.date.month).toList ++ '-' :: (padded 2 timestamp.date.day).toList ++
    'T' :: (padded 2 (timestamp.secondOfDay / 3600)).toList ++
    ':' :: (padded 2 (timestamp.secondOfDay / 60 % 60)).toList ++
    ':' :: (padded 2 timestamp.second).toList

theorem toList_text (timestamp : Timestamp) : timestamp.text.toList =
    (yearText timestamp.date.year).toList ++ timestamp.clock ++
      (fractionText timestamp.instant.fraction).toList ++ ['Z'] := by
  have marks : "-".toList = ['-'] ∧ "T".toList = ['T'] ∧ ":".toList = [':'] ∧
      "Z".toList = ['Z'] := by decide
  simp only [text, date, secondOfDay, second, clock, String.toList_append, marks,
    List.append_assoc, List.cons_append, List.nil_append]

theorem year_date_bounds (timestamp : Timestamp) :
    -262143 ≤ timestamp.date.year ∧ timestamp.date.year ≤ 262142 := by
  have first := timestamp.instant.first_le_seconds
  have last := timestamp.instant.seconds_le_last
  rw [show Instant.first.seconds = -8334601228800 from by decide] at first
  rw [show Instant.last.seconds = 8210266876799 from by decide] at last
  have newYear : Date.toDays ⟨-262143, 1, 1⟩ = -96465292 := by decide
  have newYearAfter : Date.toDays ⟨262142 + 1, 1, 1⟩ = 95026237 := by decide
  exact Date.year_ofDays_bounds (by omega) (by omega)

theorem fraction_lt (instant : Instant) : instant.fraction < 10 ^ 9 := by
  rw [Instant.fraction, nanosPerSecond]
  omega

theorem secondOfDay_eq (timestamp : Timestamp) :
    (timestamp.secondOfDay : Int) = timestamp.instant.seconds % 86400 := by
  rw [secondOfDay]
  omega

theorem second_cases (timestamp : Timestamp) :
    timestamp.isLeap = false ∧ timestamp.second = timestamp.secondOfDay % 60 ∨
      timestamp.isLeap = true ∧ timestamp.second = 60 ∧ timestamp.secondOfDay % 60 = 59 := by
  have seconds := timestamp.secondOfDay_eq
  have ends := timestamp.leap_ends_minute
  rw [second]
  cases isLeap : timestamp.isLeap with
  | false => exact .inl ⟨rfl, rfl⟩
  | true =>
      have lastSecond : timestamp.secondOfDay % 60 = 59 := by
        have last := ends isLeap
        omega
      exact .inr ⟨rfl, by rw [lastSecond]; rfl, lastSecond⟩

theorem assemble_written (timestamp : Timestamp) :
    assemble timestamp.date (timestamp.secondOfDay / 3600 * 3600 +
        timestamp.secondOfDay / 60 % 60 * 60 + min timestamp.second 59)
      (timestamp.second = 60) timestamp.instant.fraction 0 = .ok timestamp := by
  have years := timestamp.year_date_bounds
  have valid : timestamp.date.isValid = true := Date.isValid_ofDays _
  have days : timestamp.date.toDays = timestamp.instant.seconds / 86400 := Date.toDays_ofDays _
  have time : timestamp.secondOfDay / 3600 * 3600 + timestamp.secondOfDay / 60 % 60 * 60 +
      min timestamp.second 59 = timestamp.secondOfDay := by
    rcases timestamp.second_cases with ⟨-, second⟩ | ⟨-, second, lastSecond⟩
    · omega
    · omega
  have isLeap : decide (timestamp.second = 60) = timestamp.isLeap := by
    rcases timestamp.second_cases with ⟨isLeap, second⟩ | ⟨isLeap, second, -⟩
    · rw [isLeap, decide_eq_false]
      omega
    · rw [isLeap, decide_eq_true second]
  have nanos : (timestamp.date.toDays * 86400 + timestamp.secondOfDay - 0) *
      nanosPerSecond + timestamp.instant.fraction = timestamp.instant.nanos := by
    rw [days, timestamp.secondOfDay_eq, Instant.fraction, Instant.seconds, nanosPerSecond]
    omega
  have made : Instant.ofNanos? timestamp.instant.nanos = some timestamp.instant :=
    dif_pos ⟨timestamp.instant.first_le, timestamp.instant.lt_end⟩
  rw [assemble, if_neg (by simp [valid, firstYear, lastYear]; omega), time, nanos, made]
  simp only [isLeap]
  exact dif_pos timestamp.leap_ends_minute

/-- Every date of the calendar's years has timestamps at all its times of day. -/
theorem exists_timestamp {date : Date} (valid : date.isValid = true)
    (years : -262143 ≤ date.year ∧ date.year ≤ 262142) {time nanos : Nat} (inDay : time < 86400)
    (inSecond : nanos < 10 ^ 9) :
    ∃ timestamp : Timestamp, timestamp.date = date ∧ timestamp.secondOfDay = time ∧
      timestamp.instant.fraction = nanos := by
  have inYear := Date.year_ofDays_cases date.toDays
  rw [Date.ofDays_toDays valid] at inYear
  have first := Date.toDays_newYear_mono years.1
  have last := Date.toDays_newYear_mono (Int.add_le_add_right years.2 1)
  rw [show Date.toDays ⟨-262143, 1, 1⟩ = -96465292 from by decide] at first
  rw [show Date.toDays ⟨262142 + 1, 1, 1⟩ = 95026237 from by decide] at last
  have seconds : ((date.toDays * 86400 + time) * nanosPerSecond + nanos) / nanosPerSecond =
      date.toDays * 86400 + time := by
    rw [nanosPerSecond]
    omega
  refine ⟨.ofInstant ⟨(date.toDays * 86400 + time) * nanosPerSecond + nanos, ?_, ?_⟩, ?_, ?_, ?_⟩
  · rw [nanosPerSecond]
    omega
  · rw [nanosPerSecond]
    omega
  · have days : (date.toDays * 86400 + (time : Int)) / 86400 = date.toDays := by omega
    simp only [Timestamp.date, ofInstant, Instant.seconds, seconds, days]
    exact Date.ofDays_toDays valid
  · simp only [secondOfDay, ofInstant, Instant.seconds, seconds]
    omega
  · simp only [Instant.fraction, ofInstant, nanosPerSecond]
    omega

theorem month_bounds (timestamp : Timestamp) :
    1 ≤ timestamp.date.month ∧ timestamp.date.month ≤ 12 :=
  (Date.isValid_iff.mp (Date.isValid_ofDays _)).1

theorem day_bounds (timestamp : Timestamp) :
    1 ≤ timestamp.date.day ∧ timestamp.date.day ≤ 31 := by
  rcases Date.isValid_iff.mp (Date.isValid_ofDays (timestamp.instant.seconds / 86400)) with
    ⟨-, first, last⟩
  exact ⟨first, Nat.le_trans last (Date.monthLength_le _ _)⟩

theorem secondOfDay_lt (timestamp : Timestamp) : timestamp.secondOfDay < 86400 := by
  have seconds := timestamp.secondOfDay_eq
  omega

theorem second_le (timestamp : Timestamp) : timestamp.second ≤ 60 := by
  rcases timestamp.second_cases with ⟨-, second⟩ | ⟨-, second, -⟩
  · omega
  · omega

theorem length_clock (timestamp : Timestamp) : timestamp.clock.length = 15 := by
  have months := timestamp.month_bounds
  have days := timestamp.day_bounds
  have inDay := timestamp.secondOfDay_lt
  have seconds := timestamp.second_le
  have two (value : Nat) (small : value < 10 ^ 2) : (padded 2 value).toList.length = 2 :=
    length_padded_of_lt (by decide) small
  simp only [clock, List.cons_append, List.length_append, List.length_cons]
  rw [two timestamp.date.month (by omega), two timestamp.date.day (by omega),
    two (timestamp.secondOfDay / 3600) (by omega),
    two (timestamp.secondOfDay / 60 % 60) (by omega), two timestamp.second (by omega)]

@[simp] theorem read_text (timestamp : Timestamp) : read timestamp.text = .ok timestamp := by
  have years := timestamp.year_date_bounds
  have months := timestamp.month_bounds
  have days := timestamp.day_bounds
  have inDay := timestamp.secondOfDay_lt
  have isYear := isYear_yearText timestamp.date.year
  have isFraction := isFraction_fractionText (fraction_lt timestamp.instant)
  rcases isFraction.exists_mark with ⟨mark, rest, starts, stops⟩
  have readYear := readYear_written isYear ⟨by omega, by omega⟩
  have readMonth (after : List Char) :
      readField 1 12 ((padded 2 timestamp.date.month).toList ++ '-' :: after) =
        .ok (timestamp.date.month, '-' :: after) :=
    readField_written months.1 months.2 (by decide) (by decide)
  have readDay (after : List Char) :
      readField 1 31 ((padded 2 timestamp.date.day).toList ++ 'T' :: after) =
        .ok (timestamp.date.day, 'T' :: after) :=
    readField_written days.1 days.2 (by decide) (by decide)
  have readHour (after : List Char) :
      readField 0 23 ((padded 2 (timestamp.secondOfDay / 3600)).toList ++ ':' :: after) =
        .ok (timestamp.secondOfDay / 3600, ':' :: after) :=
    readField_written (Nat.zero_le _) (by omega) (by decide) (by decide)
  have readMinute (after : List Char) :
      readField 0 59 ((padded 2 (timestamp.secondOfDay / 60 % 60)).toList ++ ':' :: after) =
        .ok (timestamp.secondOfDay / 60 % 60, ':' :: after) :=
    readField_written (Nat.zero_le _) (by omega) (by decide) (by decide)
  have readSecond :
      readField 0 60 ((padded 2 timestamp.second).toList ++
          ((fractionText timestamp.instant.fraction).toList ++ ['Z'])) =
        .ok (timestamp.second, (fractionText timestamp.instant.fraction).toList ++ ['Z']) := by
    rw [starts]
    exact readField_written (Nat.zero_le _) timestamp.second_le (by decide) stops
  have skipDash (after : List Char) : skipMark '-' ('-' :: after) = .ok after :=
    skipMark_written (by decide)
  have skipColon (after : List Char) : skipMark ':' (':' :: after) = .ok after :=
    skipMark_written (by decide)
  have skipT (after : List Char) : skipDivider ('T' :: after) = .ok after := rfl
  have readZone : readOffset (Text.trimFront ['Z']) = .ok (0, []) := rfl
  have finish : ¬Text.trimFront [] ≠ [] := by simp [Text.trimFront]
  simp only [read, toList_text, clock, List.append_assoc, List.cons_append, readYear, ok_bind,
    skipDash, readMonth, readDay, skipT, readHour, skipColon, readMinute, readSecond,
    readFraction_written isFraction, readZone, if_neg finish]
  exact assemble_written timestamp

end AuthServer.Timestamp
