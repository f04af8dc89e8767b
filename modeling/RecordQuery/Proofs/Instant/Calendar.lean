import Mathlib.Tactic.IntervalCases
import RecordQuery.Instant

/-!
# Days and dates

Counting days and naming the day of a count are inverse to each other: every
day has a date of the calendar, and every such date is that of its day.  Years
are counted from March, so that a year of an era is told from its days by
correcting for the leap days before it; where the correction is off by a day, it
is so within the year.
-/

namespace RecordQuery.Date

/-- Whether the calendar has the date. -/
structure IsValid (date : Date) : Prop where
  month_pos : 1 ≤ date.month
  month_le : date.month ≤ 12
  day_pos : 1 ≤ date.day
  day_le : date.day ≤ daysInMonth date.year date.month

theorem valid?_eq_some_iff {year : Int} {month day : Nat} {date : Date} :
    valid? year month day = some date ↔
      date = ⟨year, month, day⟩ ∧ date.IsValid ∧
        minYear ≤ year ∧ year ≤ maxYear := by
  unfold valid?
  constructor
  · intro found
    split at found
    · rename_i bounds
      obtain ⟨least, most, monthPos, monthLe, dayPos, dayLe⟩ := bounds
      rw [Option.some.injEq] at found
      subst found
      exact ⟨rfl, ⟨monthPos, monthLe, dayPos, dayLe⟩, least, most⟩
    · cases found
  · rintro ⟨rfl, valid, least, most⟩
    rw [if_pos ⟨least, most, valid.month_pos, valid.month_le, valid.day_pos,
      valid.day_le⟩]

theorem daysInMonth_le (year : Int) (month : Nat) :
    daysInMonth year month ≤ 31 := by
  unfold daysInMonth
  split_ifs <;> omega

/-! ## The year of a day of an era -/

/-- The days of an era before a year of it. -/
def daysBefore (year : Int) : Int :=
  365 * year + year / 4 - year / 100

/-- A day of an era, less the leap days before it. -/
def corrected (day : Int) : Int :=
  day - day / 1460 + day / 36524 - day / 146096

theorem corrected_mono {earlier later : Int} (ordered : earlier ≤ later) :
    corrected earlier ≤ corrected later := by
  unfold corrected
  omega

set_option maxRecDepth 10000 in
/-- The first and the last day of every year of an era are corrected to days of
that year. -/
theorem corrected_daysBefore :
    ∀ year : Fin 400,
      365 * (year.val : Int) ≤ corrected (daysBefore year.val) ∧
        corrected (daysBefore (year.val + 1) - 1) <
          365 * ((year.val : Int) + 1) := by
  decide +kernel

theorem le_corrected_daysBefore {year : Int} (least : 0 ≤ year)
    (most : year ≤ 399) :
    365 * year ≤ corrected (daysBefore year) := by
  have ends := (corrected_daysBefore ⟨year.toNat, by omega⟩).1
  simpa only [Int.toNat_of_nonneg least] using ends

theorem corrected_daysBefore_lt {year : Int} (least : 0 ≤ year)
    (most : year ≤ 399) :
    corrected (daysBefore (year + 1) - 1) < 365 * (year + 1) := by
  have ends := (corrected_daysBefore ⟨year.toNat, by omega⟩).2
  simpa only [Int.toNat_of_nonneg least] using ends

/-- Whether a day of an era lies in a year of it; the last year has the leap day
that ends the era. -/
def IsDayOf (year day : Int) : Prop :=
  daysBefore year ≤ day ∧
    (day < daysBefore (year + 1) ∨ year = 399 ∧ day ≤ 146096)

theorem isDayOf_iff {year day : Int} (leastYear : 0 ≤ year)
    (mostYear : year ≤ 399) (least : 0 ≤ day) (most : day ≤ 146096) :
    IsDayOf year day ↔ corrected day / 365 = year := by
  have first := le_corrected_daysBefore leastYear mostYear
  constructor
  · rintro ⟨lower, upper⟩
    have atLeast := corrected_mono lower
    rcases upper with before | ⟨rfl, last⟩
    · have atMost := corrected_mono (Int.le_sub_one_of_lt before)
      have last := corrected_daysBefore_lt leastYear mostYear
      omega
    · have atMost := corrected_mono last
      have ends : corrected 146096 = 145999 := by decide
      omega
  · intro found
    constructor
    · by_contra early
      have ordered : day ≤ daysBefore year - 1 := by omega
      by_cases zero : year = 0
      · subst zero
        have start : daysBefore 0 = 0 := by decide
        omega
      · have earlier :
            corrected (daysBefore (year - 1 + 1) - 1) <
              365 * (year - 1 + 1) :=
          corrected_daysBefore_lt (by omega) (by omega)
        rw [Int.sub_add_cancel] at earlier
        have atMost := corrected_mono ordered
        omega
    · by_cases last : year = 399
      · exact Or.inr ⟨last, most⟩
      · refine Or.inl ?_
        by_contra late
        have next :
            365 * (year + 1) ≤ corrected (daysBefore (year + 1)) :=
          le_corrected_daysBefore (by omega) (by omega)
        have atLeast := corrected_mono (Int.not_lt.mp late)
        omega

theorem isDayOf_corrected {day : Int} (least : 0 ≤ day)
    (most : day ≤ 146096) :
    0 ≤ corrected day / 365 ∧ corrected day / 365 ≤ 399 ∧
      IsDayOf (corrected day / 365) day := by
  have lower := corrected_mono least
  have upper := corrected_mono most
  have start : corrected 0 = 0 := by decide
  have ends : corrected 146096 = 145999 := by decide
  have leastYear : 0 ≤ corrected day / 365 := by omega
  have mostYear : corrected day / 365 ≤ 399 := by omega
  exact ⟨leastYear, mostYear,
    (isDayOf_iff leastYear mostYear least most).mpr rfl⟩

/-- The month of a day of a year, months counted from March. -/
theorem month_of_day {day : Int} (least : 0 ≤ day) (most : day ≤ 365) :
    (0 ≤ (5 * day + 2) / 153 ∧ (5 * day + 2) / 153 ≤ 11) ∧
      1 ≤ day - (153 * ((5 * day + 2) / 153) + 2) / 5 + 1 ∧
      day - (153 * ((5 * day + 2) / 153) + 2) / 5 + 1 ≤
        (153 * ((5 * day + 2) / 153 + 1) + 2) / 5 -
          (153 * ((5 * day + 2) / 153) + 2) / 5 := by
  omega

/-! ## The parts of a date -/

/-- A date as the calendar that starts in March counts it: eras of 400 years,
years of an era, months of a year, days of a month. -/
structure Parts where
  era : Int
  year : Int
  month : Int
  day : Int

namespace Parts

def dayOfYear (parts : Parts) : Int :=
  (153 * parts.month + 2) / 5 + parts.day - 1

def dayOfEra (parts : Parts) : Int :=
  daysBefore parts.year + parts.dayOfYear

def days (parts : Parts) : Int :=
  parts.era * 146097 + parts.dayOfEra - 719468

def date (parts : Parts) : Date where
  year :=
    parts.year + parts.era * 400 + if parts.month < 10 then 0 else 1
  month := (if parts.month < 10 then parts.month + 3 else parts.month - 9).toNat
  day := parts.day.toNat

/-- Whether the parts are those of a day: the month has it, and the leap day
ends a year that is before a leap year. -/
structure IsDay (parts : Parts) : Prop where
  year : 0 ≤ parts.year ∧ parts.year ≤ 399
  month : 0 ≤ parts.month ∧ parts.month ≤ 11
  day_pos : 1 ≤ parts.day
  day_le : parts.day ≤ (153 * (parts.month + 1) + 2) / 5 -
    (153 * parts.month + 2) / 5
  inYear : IsDayOf parts.year parts.dayOfEra

/-- The parts of a day of the count. -/
def ofDays (days : Int) : Parts :=
  let shifted := days + 719468
  let era := shifted / 146097
  let dayOfEra := shifted - era * 146097
  let year := corrected dayOfEra / 365
  let dayOfYear := dayOfEra - daysBefore year
  let month := (5 * dayOfYear + 2) / 153
  ⟨era, year, month, dayOfYear - (153 * month + 2) / 5 + 1⟩

theorem days_ofDays (count : Int) : (ofDays count).days = count := by
  simp only [days, dayOfEra, dayOfYear, ofDays]
  omega

theorem isDay_ofDays (count : Int) : (ofDays count).IsDay := by
  let dayOfEra := count + 719468 - (count + 719468) / 146097 * 146097
  have least : 0 ≤ dayOfEra := by omega
  have most : dayOfEra ≤ 146096 := by omega
  obtain ⟨leastYear, mostYear, within⟩ := isDayOf_corrected least most
  have spent : (ofDays count).dayOfEra = dayOfEra := by
    simp only [Parts.dayOfEra, dayOfYear, ofDays, dayOfEra]
    omega
  have inYear : IsDayOf (ofDays count).year (ofDays count).dayOfEra := by
    rw [spent]
    exact within
  have position :
      0 ≤ dayOfEra - daysBefore (corrected dayOfEra / 365) ∧
        dayOfEra - daysBefore (corrected dayOfEra / 365) ≤ 365 := by
    have lower := within.1
    have upper := within.2
    unfold daysBefore at lower upper ⊢
    omega
  obtain ⟨month, first, last⟩ := month_of_day position.1 position.2
  exact ⟨⟨leastYear, mostYear⟩, month, first, last, inYear⟩

/-- The parts of the day of a date are those it was made of. -/
theorem ofDays_days {parts : Parts} (isDay : parts.IsDay) :
    ofDays parts.days = parts := by
  obtain ⟨era, year, month, day⟩ := parts
  obtain ⟨⟨leastYear, mostYear⟩, ⟨leastMonth, mostMonth⟩, dayPos, dayLe,
    inYear⟩ := isDay
  have position :
      0 ≤ dayOfEra ⟨era, year, month, day⟩ ∧
        dayOfEra ⟨era, year, month, day⟩ ≤ 146096 := by
    have lower := inYear.1
    have upper := inYear.2
    unfold daysBefore at lower upper
    simp only at leastYear mostYear lower upper
    omega
  have sameYear :
      corrected (dayOfEra ⟨era, year, month, day⟩) / 365 = year :=
    (isDayOf_iff leastYear mostYear position.1 position.2).mp inYear
  have sameEra :
      (days ⟨era, year, month, day⟩ + 719468) / 146097 = era := by
    simp only [days]
    omega
  have sameDay :
      days ⟨era, year, month, day⟩ + 719468 - era * 146097 =
        dayOfEra ⟨era, year, month, day⟩ := by
    simp only [days]
    omega
  have sameMonth : (5 * dayOfYear ⟨era, year, month, day⟩ + 2) / 153 = month := by
    simp only [dayOfYear] at leastMonth mostMonth dayPos dayLe ⊢
    omega
  have left :
      dayOfEra ⟨era, year, month, day⟩ - daysBefore year =
        dayOfYear ⟨era, year, month, day⟩ := by
    simp only [dayOfEra]
    omega
  have dayOfMonth :
      dayOfYear ⟨era, year, month, day⟩ - (153 * month + 2) / 5 + 1 = day := by
    simp only [dayOfYear]
    omega
  simp only [ofDays, sameEra, sameDay, sameYear, left, sameMonth, dayOfMonth]

/-- The date of the parts of a day is a date of the calendar. -/
theorem isValid_date {parts : Parts} (isDay : parts.IsDay) :
    parts.date.IsValid := by
  obtain ⟨era, year, month, day⟩ := parts
  obtain ⟨⟨leastYear, mostYear⟩, ⟨leastMonth, mostMonth⟩, dayPos, dayLe,
    inYear⟩ := isDay
  have upper := inYear.2
  simp only [dayOfEra, dayOfYear, daysBefore] at *
  have monthRange :
      1 ≤ (if month < 10 then month + 3 else month - 9).toNat ∧
        (if month < 10 then month + 3 else month - 9).toNat ≤ 12 := by
    split_ifs <;> omega
  refine ⟨monthRange.1, monthRange.2, by simp only [date]; omega, ?_⟩
  by_cases february : month = 11
  · subst february
    have leap :
        day.toNat = 29 → isLeapYear (year + era * 400 + 1) = true := by
      intro last
      simp only [isLeapYear, Bool.and_eq_true, Bool.or_eq_true, beq_iff_eq,
        bne_iff_ne]
      omega
    have short : day.toNat ≤ 29 := by omega
    show day.toNat ≤
      if isLeapYear (year + era * 400 + 1) then 29 else 28
    split_ifs with leapYear
    · exact short
    · have notLast : day.toNat ≠ 29 := fun last => leapYear (leap last)
      omega
  · have others : month ≤ 10 := by omega
    interval_cases month
    all_goals
      simp [date, daysInMonth]
      omega

theorem toDays_date {parts : Parts} (isDay : parts.IsDay) :
    parts.date.toDays = parts.days := by
  obtain ⟨era, year, month, day⟩ := parts
  obtain ⟨⟨leastYear, mostYear⟩, ⟨leastMonth, mostMonth⟩, dayPos, _, _⟩ :=
    isDay
  simp only at leastYear mostYear leastMonth mostMonth dayPos
  simp only [toDays, date, days, dayOfEra, dayOfYear, daysBefore]
  by_cases early : month < 10
  · simp only [early, if_true]
    rw [if_neg (by omega), if_neg (by omega)]
    omega
  · simp only [early, if_false]
    rw [if_pos (by omega), if_pos (by omega)]
    omega

end Parts

theorem ofDays_eq_date (count : Int) :
    Date.ofDays count = (Parts.ofDays count).date := by
  obtain ⟨least, most⟩ := (Parts.isDay_ofDays count).month
  have turned :
      (if (if (Parts.ofDays count).month < 10 then
            (Parts.ofDays count).month + 3
          else (Parts.ofDays count).month - 9) ≤ 2 then (1 : Int) else 0) =
        if (Parts.ofDays count).month < 10 then 0 else 1 := by
    split_ifs <;> omega
  rw [Parts.date, ← turned]
  rfl

/-- Every day of the count has a date of the calendar. -/
theorem isValid_ofDays (count : Int) : (Date.ofDays count).IsValid := by
  rw [ofDays_eq_date]
  exact Parts.isValid_date (Parts.isDay_ofDays count)

theorem toDays_ofDays (count : Int) : (Date.ofDays count).toDays = count := by
  rw [ofDays_eq_date, Parts.toDays_date (Parts.isDay_ofDays count),
    Parts.days_ofDays]

/-! ## Dates that are counted -/

/-- The parts of a date. -/
def parts (date : Date) : Parts :=
  let year := if date.month ≤ 2 then date.year - 1 else date.year
  { era := year / 400
    year := year - year / 400 * 400
    month := if date.month ≤ 2 then date.month + 9 else date.month - 3
    day := date.day }

theorem isDay_parts {date : Date} (valid : date.IsValid) :
    date.parts.IsDay := by
  obtain ⟨year, month, day⟩ := date
  obtain ⟨monthPos, monthLe, dayPos, dayLe⟩ := valid
  simp only at monthPos monthLe dayPos dayLe
  -- the leap day, the last of its year, needs the year after it to be one
  have leap :
      isLeapYear year = true →
        year % 4 = 0 ∧ (year % 100 ≠ 0 ∨ year % 400 = 0) := by
    intro leapYear
    simpa [isLeapYear] using leapYear
  have february : month = 2 → day ≤ 28 ∨ day = 29 ∧ isLeapYear year = true := by
    rintro rfl
    cases leapYear : isLeapYear year with
    | true =>
        have most : day ≤ 29 := by simpa [daysInMonth, leapYear] using dayLe
        by_cases short : day ≤ 28
        · exact Or.inl short
        · exact Or.inr ⟨by omega, rfl⟩
    | false =>
        have most : day ≤ 28 := by simpa [daysInMonth, leapYear] using dayLe
        exact Or.inl most
  have length :
      (day : Int) ≤ (153 * ((parts ⟨year, month, day⟩).month + 1) + 2) / 5 -
        (153 * (parts ⟨year, month, day⟩).month + 2) / 5 := by
    simp only [parts]
    interval_cases month <;> simp [daysInMonth] at dayLe february ⊢ <;> omega
  refine ⟨?_, ?_, ?_, length, ?_⟩
  · simp only [parts]
    omega
  · simp only [parts]
    split_ifs <;> omega
  · simp only [parts]
    omega
  · have first : 0 ≤ (parts ⟨year, month, day⟩).dayOfYear := by
      simp only [Parts.dayOfYear, parts]
      split_ifs <;> omega
    have last :
        (parts ⟨year, month, day⟩).dayOfYear ≤ 364 ∨
          (parts ⟨year, month, day⟩).dayOfYear = 365 ∧ month = 2 ∧
            year % 4 = 0 ∧ (year % 100 ≠ 0 ∨ year % 400 = 0) := by
      by_cases isFebruary : month = 2
      · subst isFebruary
        rcases february rfl with short | ⟨rfl, leapYear⟩
        · refine Or.inl ?_
          simp [Parts.dayOfYear, parts]
          omega
        · exact Or.inr ⟨by simp [Parts.dayOfYear, parts], rfl, leap leapYear⟩
      · refine Or.inl ?_
        simp only [Parts.dayOfYear, parts] at length ⊢
        split_ifs at length ⊢ <;> omega
    have spent :
        (parts ⟨year, month, day⟩).dayOfEra =
          daysBefore (parts ⟨year, month, day⟩).year +
            (parts ⟨year, month, day⟩).dayOfYear :=
      rfl
    rw [IsDayOf, spent]
    generalize (parts ⟨year, month, day⟩).dayOfYear = dayOfYear at first last
    rcases last with short | ⟨rfl, rfl, isLeap⟩
    · simp only [parts, daysBefore]
      omega
    · simp only [parts, daysBefore]
      omega

theorem date_parts {date : Date} (valid : date.IsValid) :
    date.parts.date = date := by
  obtain ⟨year, month, day⟩ := date
  obtain ⟨monthPos, monthLe, dayPos, dayLe⟩ := valid
  simp only at monthPos monthLe
  simp only [Parts.date, parts, Date.mk.injEq]
  by_cases early : month ≤ 2
  · simp only [early, if_true]
    rw [if_neg (by omega), if_neg (by omega)]
    omega
  · simp only [early, if_false]
    rw [if_pos (by omega), if_pos (by omega)]
    omega

theorem ofDays_toDays {date : Date} (valid : date.IsValid) :
    Date.ofDays date.toDays = date := by
  have isDay := isDay_parts valid
  have counted : date.toDays = date.parts.days := by
    rw [← Parts.toDays_date isDay, date_parts valid]
  rw [counted, ofDays_eq_date, Parts.ofDays_days isDay, date_parts valid]

/-! ## Years and counts -/

theorem toDays_ge_of_year_nonneg {date : Date} (valid : date.IsValid)
    (nonneg : 0 ≤ date.year) :
    365 * date.year - 720000 ≤ date.toDays := by
  have dayPos := valid.day_pos
  have monthPos := valid.month_pos
  simp only [toDays]
  split_ifs <;> omega

theorem toDays_le_of_year_nonneg {date : Date} (valid : date.IsValid)
    (nonneg : 0 ≤ date.year) :
    date.toDays ≤ 366 * date.year - 719000 := by
  have dayLe := Nat.le_trans valid.day_le (daysInMonth_le _ _)
  have monthLe := valid.month_le
  simp only [toDays]
  split_ifs <;> omega

theorem toDays_le_of_year_neg {date : Date} (valid : date.IsValid)
    (negative : date.year < 0) :
    date.toDays ≤ 365 * date.year - 718000 := by
  have dayLe := Nat.le_trans valid.day_le (daysInMonth_le _ _)
  have monthLe := valid.month_le
  simp only [toDays]
  split_ifs <;> omega

theorem toDays_ge_of_year_neg {date : Date} (valid : date.IsValid)
    (negative : date.year < 0) :
    366 * date.year - 720000 ≤ date.toDays := by
  have dayPos := valid.day_pos
  have monthPos := valid.month_pos
  simp only [toDays]
  split_ifs <;> omega

end RecordQuery.Date
