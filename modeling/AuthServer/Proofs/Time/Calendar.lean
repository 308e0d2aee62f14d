import AuthServer.Time.Calendar

/-!
The calendar loses no day. Every day has a date that exists, and the date leads back to the day.
-/

namespace AuthServer.Date

/-! ## Days of an era -/

/-- A day of an era, by its century, its cycle of four years, its year of the cycle and its day of
the year. The leap day ends a cycle; it ends a century only if that is the last. -/
structure EraDay where
  century : Int
  cycle : Int
  year : Int
  day : Int
  century_bounds : 0 ≤ century ∧ century ≤ 3
  cycle_bounds : 0 ≤ cycle ∧ cycle ≤ 24
  year_bounds : 0 ≤ year ∧ year ≤ 3
  day_bounds : 0 ≤ day ∧ day ≤ 365
  leap : day = 365 → year = 3 ∧ (cycle = 24 → century = 3)

/-- The last of the parts that a number is divided into may be longer than the others. -/
theorem exists_part {number size : Int} (last : Int) (sized : 0 < size) (some : 0 ≤ last)
    (least : 0 ≤ number) :
    ∃ part rest, number = size * part + rest ∧ (0 ≤ part ∧ part ≤ last) ∧ 0 ≤ rest ∧
      (part < last → rest < size) := by
  by_cases early : number / size ≤ last
  · exact ⟨number / size, number % size, (Int.mul_ediv_add_emod number size).symm,
      ⟨Int.ediv_nonneg least (Int.le_of_lt sized), early⟩,
      Int.emod_nonneg number (Int.ne_of_gt sized), fun _ => Int.emod_lt_of_pos number sized⟩
  · have reached : size * last ≤ number := by
      rw [Int.mul_comm]
      exact (Int.le_ediv_iff_mul_le sized).mp (by omega)
    exact ⟨last, number - size * last, by omega, ⟨some, Int.le_refl last⟩, by omega, by omega⟩

namespace EraDay

def number (place : EraDay) : Int :=
  36524 * place.century + 1461 * place.cycle + 365 * place.year + place.day

def yearOfEra (place : EraDay) : Int :=
  100 * place.century + 4 * place.cycle + place.year

theorem exists_number {number : Int} (least : 0 ≤ number) (most : number < eraLength) :
    ∃ place : EraDay, place.number = number := by
  unfold eraLength at most
  rcases exists_part 3 (by decide : (0 : Int) < 36524) (by decide) least with
    ⟨century, inCentury, rfl, centuries, restLeast, early⟩
  rcases exists_part 24 (by decide : (0 : Int) < 1461) (by decide) restLeast with
    ⟨cycle, inCycle, rfl, cycles, restLeast, earlyCycle⟩
  rcases exists_part 3 (by decide : (0 : Int) < 365) (by decide) restLeast with
    ⟨year, day, rfl, years, dayLeast, earlyYear⟩
  refine ⟨⟨century, cycle, year, day, centuries, cycles, years, by omega, by omega⟩, ?_⟩
  simp only [EraDay.number]
  omega

variable (place : EraDay)

theorem yearOfEra_bounds : 0 ≤ place.yearOfEra ∧ place.yearOfEra < 400 := by
  rcases place with ⟨century, cycle, year, day, _, _, _, _, _⟩
  simp only [yearOfEra]
  omega

theorem number_bounds : 0 ≤ place.number ∧ place.number < eraLength := by
  rcases place with ⟨century, cycle, year, day, _, _, _, _, _⟩
  simp only [number, eraLength]
  omega

/-- The centuries before a day, of which the last is one day longer. -/
theorem number_div_century : place.number / 36524 - place.number / 146096 = place.century := by
  rcases place with ⟨century, cycle, year, day, centuries, cycles, years, days, leap⟩
  simp only [number]
  have inCentury : 0 ≤ 1461 * cycle + 365 * year + day := by omega
  by_cases lastDay : cycle = 24 ∧ day = 365
  · omega
  · have short : 1461 * cycle + 365 * year + day < 36524 := by omega
    clear leap
    omega

/-- Cycles of 1460 days run ahead by a day each, which a year catches up at its end. -/
theorem number_div_cycle : place.number / 1460 = 25 * place.century + place.cycle +
    if 1460 ≤ 24 * place.century + place.cycle + 365 * place.year + place.day then 1 else 0 := by
  rcases place with ⟨century, cycle, year, day, _, _, _, _, _⟩
  simp only [number]
  split <;> omega

theorem number_div_year :
    (place.number - place.number / 1460 + place.number / 36524 - place.number / 146096) / 365 =
      place.yearOfEra := by
  have centuries := place.number_div_century
  have cycles := place.number_div_cycle
  rcases place with ⟨century, cycle, year, day, _, _, _, _, _⟩
  simp only [number, yearOfEra] at *
  split at cycles
  · have counted : 1 ≤ day := by omega
    omega
  · have counted : day ≤ 364 := by omega
    omega

theorem number_sub_year :
    place.number - (365 * place.yearOfEra + place.yearOfEra / 4 - place.yearOfEra / 100) =
      place.day := by
  rcases place with ⟨century, cycle, year, day, _, _, _, _, _⟩
  simp only [number, yearOfEra]
  omega

end EraDay

/-! ## Counted years -/

/-- The date of a day in a year that is counted from the first of March. -/
def ofCounted (year day : Int) : Date :=
  let month := (5 * day + 2) / 153
  let dayOfMonth := day - (153 * month + 2) / 5 + 1
  if month < 10 then ⟨year, (month + 3).toNat, dayOfMonth.toNat⟩
  else ⟨year + 1, (month - 9).toNat, dayOfMonth.toNat⟩

theorem exists_place (days : Int) :
    ∃ era, ∃ place : EraDay, days = era * eraLength + place.number - epochOffset := by
  have sized : 0 < eraLength := by decide
  rcases EraDay.exists_number (Int.emod_nonneg (days + epochOffset) (Int.ne_of_gt sized))
    (Int.emod_lt_of_pos (days + epochOffset) sized) with ⟨place, placed⟩
  refine ⟨(days + epochOffset) / eraLength, place, ?_⟩
  have split := Int.mul_ediv_add_emod (days + epochOffset) eraLength
  rw [Int.mul_comm] at split
  omega

theorem ofDays_eq (era : Int) (place : EraDay) :
    ofDays (era * eraLength + place.number - epochOffset) =
      ofCounted (place.yearOfEra + era * 400) place.day := by
  have bounds := place.number_bounds
  have inEra : (era * eraLength + place.number) / eraLength = era := by
    rw [Int.add_comm, Int.add_mul_ediv_right _ _ (by decide),
      Int.ediv_eq_zero_of_lt bounds.1 bounds.2, Int.zero_add]
  have number : (era * eraLength + place.number) % eraLength = place.number := by
    rw [Int.add_comm, Int.add_mul_emod_self_right, Int.emod_eq_of_lt bounds.1 bounds.2]
  simp only [ofDays, Int.sub_add_cancel, inEra, number, place.number_div_year,
    place.number_sub_year, ofCounted]

/-- The days of a counted year before a month, the months being counted from March as well. -/
def monthStart (month : Nat) : Int := (153 * month + 2) / 5

theorem ofCounted_cases (year : Int) {day : Int} (bounds : 0 ≤ day ∧ day ≤ 365) :
    ∃ month dayOfMonth : Nat, day = monthStart month + dayOfMonth - 1 ∧ 1 ≤ dayOfMonth ∧
      day < monthStart (month + 1) ∧
      (month < 10 ∧ ofCounted year day = ⟨year, month + 3, dayOfMonth⟩ ∨
        (month = 10 ∨ month = 11) ∧ ofCounted year day = ⟨year + 1, month - 9, dayOfMonth⟩) := by
  have monthBounds : 0 ≤ (5 * day + 2) / 153 ∧ (5 * day + 2) / 153 ≤ 11 := by omega
  rcases Int.eq_ofNat_of_zero_le monthBounds.1 with ⟨month, monthIs⟩
  have dayPositive : 1 ≤ day - (153 * (month : Int) + 2) / 5 + 1 := by omega
  rcases Int.eq_ofNat_of_zero_le (Int.le_of_lt dayPositive) with ⟨dayOfMonth, dayIs⟩
  refine ⟨month, dayOfMonth, ?_, by omega, ?_, ?_⟩
  · rw [monthStart]
    omega
  · rw [monthStart]
    omega
  · rw [ofCounted, monthIs, dayIs]
    split
    · exact .inl ⟨by omega, rfl⟩
    · refine .inr ⟨by omega, ?_⟩
      rw [← Int.toNat_sub]
      rfl

theorem toDays_ofCounted (year : Int) {day : Int} (bounds : 0 ≤ day ∧ day ≤ 365) :
    toDays (ofCounted year day) =
      year / 400 * eraLength + (year % 400 * 365 + year % 400 / 4 - year % 400 / 100 + day) -
        epochOffset := by
  rcases ofCounted_cases year bounds with
    ⟨month, dayOfMonth, dayIs, positive, -, ⟨early, written⟩ | ⟨late, written⟩⟩
  · have counted : ((month + 3 : Nat) : Int) - 3 = month := by omega
    rw [written]
    simp only [toDays]
    rw [if_neg (by omega), if_pos (by omega), counted, dayIs, monthStart]
    omega
  · have counted : ((month - 9 : Nat) : Int) + 9 = month := by omega
    rw [written]
    simp only [toDays]
    rw [if_pos (by omega), if_neg (by omega), counted, dayIs, monthStart, Int.add_sub_cancel]
    omega

theorem monthStart_succ (year : Int) {month : Nat} (early : month < 10) :
    monthStart (month + 1) = monthStart month + monthLength year (month + 3) := by
  rw [monthLength, if_neg (by omega)]
  revert month
  decide

theorem monthLength_le (year : Int) (month : Nat) : monthLength year month ≤ 31 := by
  unfold monthLength
  split
  · split <;> decide
  · split <;> decide

theorem isValid_iff {year : Int} {month day : Nat} : isValid ⟨year, month, day⟩ = true ↔
    (1 ≤ month ∧ month ≤ 12) ∧ 1 ≤ day ∧ day ≤ monthLength year month := by
  simp only [isValid, Bool.and_eq_true, decide_eq_true_eq, and_assoc]

theorem isValid_ofCounted (year : Int) {day : Int} (bounds : 0 ≤ day ∧ day ≤ 365)
    (leap : day = 365 → isLeap (year + 1) = true) : (ofCounted year day).isValid = true := by
  rcases ofCounted_cases year bounds with
    ⟨month, dayOfMonth, dayIs, positive, before, ⟨early, written⟩ | ⟨rfl | rfl, written⟩⟩
  · have nextMonth := monthStart_succ year early
    rw [written, isValid_iff]
    exact ⟨⟨by omega, by omega⟩, positive, by omega⟩
  · have january : monthStart 10 = 306 ∧ monthStart (10 + 1) = 337 := by decide
    rw [written, isValid_iff]
    exact ⟨by decide, positive, show dayOfMonth ≤ 31 by omega⟩
  · have february : monthStart 11 = 337 := by decide
    rw [written, isValid_iff]
    refine ⟨by decide, positive, ?_⟩
    change dayOfMonth ≤ if isLeap (year + 1) then 29 else 28
    split
    · omega
    · rename_i common
      have notLast : day ≠ 365 := fun last => common (leap last)
      omega

/-! ## Dates -/

/-- A year of 366 days ends with the leap day of the year after it. -/
theorem isLeap_of_day (era : Int) (place : EraDay) (last : place.day = 365) :
    isLeap (place.yearOfEra + era * 400 + 1) = true := by
  rcases place with ⟨century, cycle, year, day, centuries, cycles, _, _, leap⟩
  rcases leap last with ⟨rfl, lastCycle⟩
  simp only [isLeap, EraDay.yearOfEra, Bool.and_eq_true, Bool.or_eq_true, beq_iff_eq, bne_iff_ne]
  by_cases ends : cycle = 24
  · rw [ends, lastCycle ends]
    exact ⟨by omega, .inr (by omega)⟩
  · exact ⟨by omega, .inl (by omega)⟩

theorem isValid_ofDays (days : Int) : (ofDays days).isValid = true := by
  rcases exists_place days with ⟨era, place, rfl⟩
  rw [ofDays_eq]
  exact isValid_ofCounted _ place.day_bounds (isLeap_of_day era place)

theorem toDays_ofDays (days : Int) : (ofDays days).toDays = days := by
  rcases exists_place days with ⟨era, place, rfl⟩
  have yearBounds := place.yearOfEra_bounds
  have inEra : (place.yearOfEra + era * 400) / 400 = era := by omega
  have ofEra : (place.yearOfEra + era * 400) % 400 = place.yearOfEra := by omega
  have day := place.number_sub_year
  rw [ofDays_eq, toDays_ofCounted _ place.day_bounds, inEra, ofEra]
  omega

theorem exists_eraDay {year day : Int} (bounds : 0 ≤ day ∧ day ≤ 365)
    (leap : day = 365 → isLeap (year + 1) = true) :
    ∃ place : EraDay, place.yearOfEra = year % 400 ∧ place.day = day := by
  refine ⟨⟨year % 400 / 100, year % 100 / 4, year % 4, day, by omega, by omega, by omega, bounds,
    fun last => ?_⟩, ?_, rfl⟩
  · have leapYear := leap last
    simp only [isLeap, Bool.and_eq_true, Bool.or_eq_true, beq_iff_eq, bne_iff_ne] at leapYear
    omega
  · simp only [EraDay.yearOfEra]
    omega

theorem ofCounted_monthStart (year : Int) {month dayOfMonth : Nat} (positive : 1 ≤ dayOfMonth)
    (before : monthStart month + dayOfMonth - 1 < monthStart (month + 1)) :
    ofCounted year (monthStart month + dayOfMonth - 1) =
      if month < 10 then ⟨year, month + 3, dayOfMonth⟩ else ⟨year + 1, month - 9, dayOfMonth⟩ := by
  have inMonth : (5 * (monthStart month + dayOfMonth - 1) + 2) / 153 = (month : Int) := by
    simp only [monthStart] at *
    omega
  have inDay : (monthStart month + dayOfMonth - 1) - (153 * (month : Int) + 2) / 5 + 1 =
      (dayOfMonth : Int) := by
    rw [monthStart]
    omega
  rw [ofCounted, inMonth, inDay]
  by_cases early : month < 10
  · rw [if_pos early, if_pos (by omega)]
    rfl
  · rw [if_neg early, if_neg (by omega), ← Int.toNat_sub]
    rfl

theorem exists_ofCounted {date : Date} (valid : date.isValid = true) :
    ∃ year day : Int, (0 ≤ day ∧ day ≤ 365) ∧ (day = 365 → isLeap (year + 1) = true) ∧
      ofCounted year day = date := by
  rcases date with ⟨year, month, dayOfMonth⟩
  rcases isValid_iff.mp valid with ⟨⟨firstMonth, lastMonth⟩, firstDay, lastDay⟩
  have months : month = 1 ∨ month = 2 ∨ ∃ counted < 10, month = counted + 3 := by
    rcases Nat.lt_or_ge month 3 with early | late
    · omega
    · exact .inr (.inr ⟨month - 3, by omega, by omega⟩)
  rcases months with rfl | rfl | ⟨month, early, rfl⟩
  · have january : monthStart 10 = 306 ∧ monthStart (10 + 1) = 337 := by decide
    have short : dayOfMonth ≤ 31 := lastDay
    have date := ofCounted_monthStart (year - 1) firstDay (show monthStart 10 + _ - 1 < _ by omega)
    rw [if_neg (by decide), Int.sub_add_cancel] at date
    exact ⟨_, _, by omega, by omega, date⟩
  · have february : monthStart 11 = 337 ∧ monthStart (11 + 1) = 367 := by decide
    have short : dayOfMonth ≤ if isLeap year then 29 else 28 := lastDay
    have atMost : dayOfMonth ≤ 29 := Nat.le_trans short (by split <;> decide)
    have date := ofCounted_monthStart (year - 1) firstDay (show monthStart 11 + _ - 1 < _ by omega)
    rw [if_neg (by decide), Int.sub_add_cancel] at date
    refine ⟨_, _, by omega, fun last => ?_, date⟩
    rw [Int.sub_add_cancel]
    by_cases leap : isLeap year = true
    · exact leap
    · rw [if_neg leap] at short
      omega
  · have nextMonth := monthStart_succ year early
    have inYear : monthStart (month + 1) ≤ 306 := by
      rw [monthStart]
      omega
    have start : 0 ≤ monthStart month := by
      rw [monthStart]
      omega
    have date := ofCounted_monthStart year firstDay (show monthStart month + _ - 1 < _ by omega)
    rw [if_pos early] at date
    exact ⟨_, _, by omega, by omega, date⟩

theorem ofDays_toDays {date : Date} (valid : date.isValid = true) : ofDays date.toDays = date := by
  rcases exists_ofCounted valid with ⟨year, day, bounds, leap, rfl⟩
  rcases exists_eraDay bounds leap with ⟨place, yearIs, rfl⟩
  have number := place.number_sub_year
  have same : (ofCounted year place.day).toDays =
      year / 400 * eraLength + place.number - epochOffset := by
    rw [toDays_ofCounted year bounds, ← yearIs]
    omega
  rw [same, ofDays_eq, yearIs, Int.emod_add_ediv_mul]

/-! ## Years -/

theorem toDays_newYear (year : Int) : toDays ⟨year, 1, 1⟩ =
    365 * (year - 1) + (year - 1) / 4 - (year - 1) / 100 + (year - 1) / 400 + 306 -
      epochOffset := by
  simp only [toDays, eraLength]
  rw [if_pos (by decide), if_neg (by decide)]
  omega

theorem toDays_newYear_mono {year other : Int} (ordered : year ≤ other) :
    toDays ⟨year, 1, 1⟩ ≤ toDays ⟨other, 1, 1⟩ := by
  rw [toDays_newYear, toDays_newYear]
  omega

theorem year_ofDays_cases (days : Int) :
    toDays ⟨(ofDays days).year, 1, 1⟩ ≤ days ∧ days < toDays ⟨(ofDays days).year + 1, 1, 1⟩ := by
  have back := toDays_ofDays days
  rcases exists_place days with ⟨era, place, rfl⟩
  rw [ofDays_eq] at back ⊢
  have dayBounds := place.day_bounds
  generalize place.yearOfEra + era * 400 = year at *
  rw [toDays_ofCounted year dayBounds] at back
  rw [toDays_newYear, toDays_newYear, ← back]
  rcases ofCounted_cases year dayBounds with
    ⟨month, dayOfMonth, dayIs, positive, before, ⟨early, written⟩ | ⟨late, written⟩⟩
  · rw [written]
    simp only [eraLength, monthStart] at *
    omega
  · rw [written]
    simp only [eraLength, monthStart] at *
    omega

/-- The calendar reaches from the first day of its first year to the last day of its last one. -/
theorem year_ofDays_bounds {days first last : Int} (least : toDays ⟨first, 1, 1⟩ ≤ days)
    (most : days < toDays ⟨last + 1, 1, 1⟩) :
    first ≤ (ofDays days).year ∧ (ofDays days).year ≤ last := by
  rcases year_ofDays_cases days with ⟨start, finish⟩
  constructor
  · refine Int.not_lt.mp fun before => ?_
    have earlier := toDays_newYear_mono (show (ofDays days).year + 1 ≤ first by omega)
    omega
  · refine Int.not_lt.mp fun after => ?_
    have later := toDays_newYear_mono (show last + 1 ≤ (ofDays days).year by omega)
    omega

example : toDays ⟨-262143, 1, 1⟩ * 86400 = -8334601228800 := by decide
example : toDays ⟨262143, 1, 1⟩ * 86400 = 8210266876800 := by decide

end AuthServer.Date
