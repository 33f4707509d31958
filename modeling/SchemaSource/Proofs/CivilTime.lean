import SchemaSource.Instant
/-!
Universal time by calendar and clock. Every millisecond of the time line has one date and time of
day, later ones are later by the calendar too, and conversion in either direction agrees with the
count of leap years.
-/
namespace SchemaSource

namespace CalendarDate

/-! ## Days before a date -/

/-- The days from 1 January 1970 to the first of a year, by its leap years. -/
def daysBeforeYear (year : Int) : Int :=
  365 * (year - 1970) + (year - 1969) / 4 - (year - 1901) / 100 + (year - 1601) / 400

/-- The days of a year before a month. -/
def daysBeforeMonth (year : Int) : Nat → Nat
  | 0 | 1 => 0
  | month + 2 => daysBeforeMonth year (month + 1) + daysInMonth year (month + 1)

/-- The days from 1 January 1970 to a date. -/
def daysBefore (date : CalendarDate) : Int :=
  daysBeforeYear date.year + daysBeforeMonth date.year date.month + date.day - 1

theorem isLeapYear_iff (year : Int) :
    isLeapYear year = true ↔ year % 4 = 0 ∧ (year % 100 ≠ 0 ∨ year % 400 = 0) := by
  simp [isLeapYear]

/-- The calendar has a date. -/
structure Exists (date : CalendarDate) : Prop where
  firstMonth : 1 ≤ date.month
  lastMonth : date.month ≤ 12
  firstDay : 1 ≤ date.day
  lastDay : date.day ≤ daysInMonth date.year date.month

theorem exists?_iff (date : CalendarDate) : date.exists? = true ↔ date.Exists := by
  simp only [exists?, Bool.and_eq_true, decide_eq_true_eq]
  exact ⟨fun ⟨⟨⟨a, b⟩, c⟩, d⟩ => ⟨a, b, c, d⟩, fun ⟨a, b, c, d⟩ => ⟨⟨⟨a, b⟩, c⟩, d⟩⟩

theorem month_cases {month : Nat} (first : 1 ≤ month) (last : month ≤ 12) :
    month = 1 ∨ month = 2 ∨ month = 3 ∨ month = 4 ∨ month = 5 ∨ month = 6 ∨ month = 7 ∨ month = 8 ∨
      month = 9 ∨ month = 10 ∨ month = 11 ∨ month = 12 := by
  omega

/-- The days of the first two months, which a leap year has one more of. -/
theorem daysBeforeMonth_eq (year : Int) {month : Nat} (first : 1 ≤ month) (last : month ≤ 12) :
    (daysBeforeMonth year month : Int) =
      if month ≤ 2 then 31 * (month - 1)
      else (153 * (month - 3) + 2) / 5 + 59 + (if isLeapYear year then 1 else 0) := by
  cases leap : isLeapYear year <;>
    rcases month_cases first last with h | h | h | h | h | h | h | h | h | h | h | h <;>
    simp [h, daysBeforeMonth, daysInMonth, leap]

/-- The number of a day counts the days before it. -/
theorem dayNumber_eq {date : CalendarDate} (some : date.Exists) :
    date.dayNumber = date.daysBefore := by
  have months := daysBeforeMonth_eq date.year some.firstMonth some.lastMonth
  have first := some.firstMonth
  unfold dayNumber daysBefore daysBeforeYear cycleDays epochOffset
  rw [months]
  dsimp only
  by_cases early : date.month ≤ 2
  · simp only [if_pos early]
    have : date.month = 1 ∨ date.month = 2 := by omega
    rcases this with h | h <;> simp only [h] <;> omega
  · simp only [if_neg early]
    by_cases leap : isLeapYear date.year = true
    · have divides := (isLeapYear_iff date.year).mp leap
      rw [if_pos leap]
      omega
    · have divides := mt (isLeapYear_iff date.year).mpr leap
      rw [if_neg leap]
      omega

/-! ## The date of a day number -/

/-- The year of a cycle of 400 years that a day falls into. Leap days are taken out of the days
before it, one for each four years but the centuries. -/
theorem yearOfCycle_bounds {day year : Int} (first : 0 ≤ day) (last : day < cycleDays)
    (found : year = (day - day / 1460 + day / 36524 - day / 146096) / 365) :
    0 ≤ year ∧ year ≤ 399 ∧ 365 * year + year / 4 - year / 100 ≤ day ∧
      (year = 399 ∨ day < 365 * (year + 1) + (year + 1) / 4 - (year + 1) / 100) := by
  rw [cycleDays] at last
  -- The century is constant, and the years are counted in fours, so that each remainder is bounded.
  obtain ⟨century, centuryOf, century0, century3, start, stop, inside⟩ :
      ∃ century : Int, day / 36524 - day / 146096 = century ∧ 0 ≤ century ∧ century ≤ 3 ∧
        36524 * century ≤ day ∧ day ≤ 36524 * century + 36524 ∧
        (day < 36524 * century + 36524 ∨ century = 3) := ⟨_, rfl, by omega⟩
  obtain ⟨fours, part, dayOf, foursOf, part0, partLast⟩ :
      ∃ fours part : Int, day = 1460 * fours + part ∧ day / 1460 = fours ∧
        0 ≤ part ∧ part < 1460 := ⟨day / 1460, day % 1460, by omega, rfl, by omega, by omega⟩
  obtain ⟨rest, restOf⟩ : ∃ rest, (part + century - fours) / 365 = rest := ⟨_, rfl⟩
  have split : year = 4 * fours + rest := by omega
  clear found
  have hundreds : year / 100 = century := by omega
  have next : (year + 1) / 100 = if year = 100 * century + 99 then century + 1 else century := by
    split <;> omega
  have rests : rest = -1 ∨ rest = 0 ∨ rest = 1 ∨ rest = 2 ∨ rest = 3 ∨ rest = 4 := by omega
  rw [hundreds, next]
  rcases rests with h | h | h | h | h | h <;> rw [h] at restOf split <;> split <;> omega

/-- The month and the day of a year that starts in March. -/
theorem monthFromMarch_bounds {day : Int} (first : 0 ≤ day) (last : day ≤ 365) :
    0 ≤ (5 * day + 2) / 153 ∧ (5 * day + 2) / 153 ≤ 11 ∧
      (153 * ((5 * day + 2) / 153) + 2) / 5 ≤ day ∧
      day < (153 * ((5 * day + 2) / 153 + 1) + 2) / 5 := by
  omega

/-- A day in years that start in March: the cycle of 400 years, the year of it, the month and the
day of the year. -/
structure MarchDate where
  cycle : Int
  year : Int
  month : Int
  day : Int

namespace MarchDate

/-- The calendar has such a day. The last day of a year is there only in leap years. -/
structure Valid (m : MarchDate) : Prop where
  year : 0 ≤ m.year ∧ m.year ≤ 399
  month : 0 ≤ m.month ∧ m.month ≤ 11
  firstDay : (153 * m.month + 2) / 5 ≤ m.day
  lastDay : m.day < (153 * (m.month + 1) + 2) / 5
  leap : m.day ≤ 365 ∧ (m.day = 365 → isLeapYear (400 * m.cycle + m.year + 1) = true)

def number (m : MarchDate) : Int :=
  m.cycle * cycleDays + (m.year * 365 + m.year / 4 - m.year / 100 + m.day) - epochOffset

/-- The day by the usual year, to which the last two months do not belong any more. -/
def date (m : MarchDate) : CalendarDate where
  year := if m.month < 10 then 400 * m.cycle + m.year else 400 * m.cycle + m.year + 1
  month := (if m.month < 10 then m.month + 3 else m.month - 9).toNat
  day := (m.day - (153 * m.month + 2) / 5 + 1).toNat

theorem dayNumber_date {m : MarchDate} (valid : m.Valid) : m.date.dayNumber = m.number := by
  obtain ⟨⟨year0, year399⟩, ⟨month0, month11⟩, firstDay, -, -⟩ := valid
  unfold dayNumber date number
  dsimp only
  by_cases early : m.month < 10
  · have late : ¬(m.month + 3).toNat ≤ 2 := by omega
    have month : ((m.month + 3).toNat : Int) - 3 = m.month := by omega
    simp only [if_pos early, if_neg late, month]
    have cycle : (400 * m.cycle + m.year) / 400 = m.cycle := by omega
    rw [cycle]
    have year : 400 * m.cycle + m.year - m.cycle * 400 = m.year := by omega
    rw [year]
    omega
  · have late : (m.month - 9).toNat ≤ 2 := by omega
    have month : ((m.month - 9).toNat : Int) + 9 = m.month := by omega
    simp only [if_neg early, if_pos late, month]
    have cycle : (400 * m.cycle + m.year + 1 - 1) / 400 = m.cycle := by omega
    rw [cycle]
    have year : 400 * m.cycle + m.year + 1 - 1 - m.cycle * 400 = m.year := by omega
    rw [year]
    omega

theorem exists_date {m : MarchDate} (valid : m.Valid) : m.date.Exists := by
  obtain ⟨-, ⟨month0, month11⟩, firstDay, lastDay, lastLeap, leap⟩ := valid
  have months : m.month = 0 ∨ m.month = 1 ∨ m.month = 2 ∨ m.month = 3 ∨ m.month = 4 ∨ m.month = 5 ∨
      m.month = 6 ∨ m.month = 7 ∨ m.month = 8 ∨ m.month = 9 ∨ m.month = 10 ∨ m.month = 11 := by
    omega
  have day : (m.date.day : Int) = m.day - (153 * m.month + 2) / 5 + 1 := by
    simp only [date]
    omega
  constructor
  · simp only [date]
    split <;> omega
  · simp only [date]
    split <;> omega
  · omega
  · have length : (daysInMonth m.date.year m.date.month : Int) =
        if m.month = 11 then if isLeapYear (400 * m.cycle + m.year + 1) then 29 else 28
        else (153 * (m.month + 1) + 2) / 5 - (153 * m.month + 2) / 5 := by
      rcases months with h | h | h | h | h | h | h | h | h | h | h | h <;>
        simp [date, h, daysInMonth, apply_ite]
    split at length
    next february =>
      rw [february] at day
      split at length
      next => omega
      next common =>
        have : m.day ≠ 365 := fun last => common (leap last)
        omega
    next => omega

end MarchDate

/-- Every number is the number of a day, and the day is found through years that start in March. -/
theorem ofDayNumber_eq (number : Int) :
    ∃ m : MarchDate, m.Valid ∧ m.number = number ∧ ofDayNumber number = m.date := by
  obtain ⟨cycle, cycleOf⟩ : ∃ cycle, (number + epochOffset) / cycleDays = cycle := ⟨_, rfl⟩
  obtain ⟨rest, restOf⟩ : ∃ rest, number + epochOffset - cycle * cycleDays = rest := ⟨_, rfl⟩
  have first : 0 ≤ rest := by
    unfold cycleDays at *
    omega
  have last : rest < cycleDays := by
    unfold cycleDays at *
    omega
  obtain ⟨year, yearOf⟩ :
      ∃ year, year = (rest - rest / 1460 + rest / 36524 - rest / 146096) / 365 := ⟨_, rfl⟩
  obtain ⟨year0, year399, start, stop⟩ := yearOfCycle_bounds first last yearOf
  obtain ⟨day, dayOf⟩ : ∃ day, rest - (365 * year + year / 4 - year / 100) = day := ⟨_, rfl⟩
  have leap : day ≤ 365 ∧ (day = 365 → isLeapYear (400 * cycle + year + 1) = true) := by
    have fours : (year + 1) / 4 = if (year + 1) % 4 = 0 then year / 4 + 1 else year / 4 := by
      split <;> omega
    have centuries :
        (year + 1) / 100 = if (year + 1) % 100 = 0 then year / 100 + 1 else year / 100 := by
      split <;> omega
    rw [isLeapYear_iff]
    rw [fours, centuries] at stop
    unfold cycleDays at last
    clear yearOf restOf cycleOf
    split at stop <;> split at stop <;> omega
  obtain ⟨month0, month11, firstDay, lastDay⟩ :=
    monthFromMarch_bounds (by omega) leap.1
  refine ⟨⟨cycle, year, (5 * day + 2) / 153, day⟩,
    ⟨⟨year0, year399⟩, ⟨month0, month11⟩, firstDay, lastDay, leap⟩, ?_, ?_⟩
  · unfold MarchDate.number
    dsimp only
    omega
  · unfold ofDayNumber MarchDate.date
    dsimp only
    rw [cycleOf, restOf, ← yearOf, dayOf]
    generalize (5 * day + 2) / 153 = month at month0 month11 ⊢
    have years : year + cycle * 400 = 400 * cycle + year := by omega
    rw [years]
    congr 1
    by_cases early : month < 10
    · simp only [if_pos early]
      omega
    · simp only [if_neg early]
      omega

theorem exists_ofDayNumber (number : Int) : (ofDayNumber number).Exists := by
  obtain ⟨m, valid, -, found⟩ := ofDayNumber_eq number
  exact found ▸ m.exists_date valid

theorem dayNumber_ofDayNumber (number : Int) : (ofDayNumber number).dayNumber = number := by
  obtain ⟨m, valid, same, found⟩ := ofDayNumber_eq number
  rw [found, m.dayNumber_date valid, same]

/-! ## The order of dates -/

/-- Earlier by the calendar. -/
def Before (date other : CalendarDate) : Prop :=
  date.year < other.year ∨ date.year = other.year ∧
    (date.month < other.month ∨ date.month = other.month ∧ date.day < other.day)

theorem daysBeforeYear_succ (year : Int) :
    daysBeforeYear (year + 1) = daysBeforeYear year + 365 + (if isLeapYear year then 1 else 0) := by
  have fours : (year + 1 - 1969) / 4 = (year - 1969) / 4 + if year % 4 = 0 then 1 else 0 := by
    split <;> omega
  have centuries :
      (year + 1 - 1901) / 100 = (year - 1901) / 100 + if year % 100 = 0 then 1 else 0 := by
    split <;> omega
  have cycles :
      (year + 1 - 1601) / 400 = (year - 1601) / 400 + if year % 400 = 0 then 1 else 0 := by
    split <;> omega
  unfold daysBeforeYear
  rw [fours, centuries, cycles]
  by_cases leap : isLeapYear year = true
  · have divides := (isLeapYear_iff year).mp leap
    rw [if_pos leap]
    omega
  · have divides := mt (isLeapYear_iff year).mpr leap
    rw [if_neg leap]
    omega

theorem daysBeforeYear_mono {year other : Int} (before : year ≤ other) :
    daysBeforeYear year ≤ daysBeforeYear other := by
  unfold daysBeforeYear
  omega

theorem daysBeforeMonth_le {year : Int} {month other : Nat} (first : 1 ≤ month)
    (less : month < other) :
    daysBeforeMonth year month + daysInMonth year month ≤ daysBeforeMonth year other := by
  obtain ⟨month, rfl⟩ := Nat.exists_eq_add_of_le' first
  induction less with
  | refl => exact Nat.le_refl _
  | step later ih =>
    obtain ⟨earlier, rfl⟩ := Nat.exists_eq_add_of_le' (Nat.le_trans (Nat.succ_pos _) later)
    exact Nat.le_trans ih (Nat.le_add_right _ _)

theorem Exists.day_le {date : CalendarDate} (some : date.Exists) :
    (daysBeforeMonth date.year date.month : Int) + date.day ≤
      365 + (if isLeapYear date.year then 1 else 0) := by
  have last := some.lastDay
  have before : daysBeforeMonth date.year date.month + daysInMonth date.year date.month ≤
      daysBeforeMonth date.year 13 :=
    daysBeforeMonth_le some.firstMonth (Nat.lt_succ_of_le some.lastMonth)
  have year : (daysBeforeMonth date.year 13 : Int) =
      365 + (if isLeapYear date.year then 1 else 0) := by
    cases leap : isLeapYear date.year <;> simp [daysBeforeMonth, daysInMonth, leap]
  omega

theorem daysBefore_lt {date other : CalendarDate} (here : date.Exists) (there : other.Exists)
    (before : date.Before other) : date.daysBefore < other.daysBefore := by
  unfold daysBefore
  rcases before with year | ⟨year, month | ⟨month, day⟩⟩
  · have years := daysBeforeYear_mono (Int.add_one_le_of_lt year)
    rw [daysBeforeYear_succ] at years
    have days := here.day_le
    have first := there.firstDay
    omega
  · have months : daysBeforeMonth date.year date.month + daysInMonth date.year date.month ≤
        daysBeforeMonth date.year other.month := daysBeforeMonth_le here.firstMonth month
    have last := here.lastDay
    have first := there.firstDay
    rw [← year]
    omega
  · rw [← year, ← month]
    omega

theorem before_or_eq (date other : CalendarDate) :
    date.Before other ∨ date = other ∨ other.Before date := by
  obtain ⟨year, month, day⟩ := date
  obtain ⟨year', month', day'⟩ := other
  simp only [Before, CalendarDate.mk.injEq]
  omega

end CalendarDate

/-! ## Date and time -/

/-- Date and time of day in universal time, to the millisecond. -/
structure CivilTime where
  date : CalendarDate
  hour : Nat
  minute : Nat
  second : Nat
  milli : Nat

namespace CivilTime

/-- The calendar and the clock have this time. -/
structure Valid (c : CivilTime) : Prop where
  date : c.date.Exists
  hour : c.hour < 24
  minute : c.minute < 60
  second : c.second < 60
  milli : c.milli < 1000

/-- Milliseconds since midnight. -/
def ofDay (c : CivilTime) : Nat := ((c.hour * 60 + c.minute) * 60 + c.second) * 1000 + c.milli

/-- Milliseconds since the start of 1970. -/
def millis (c : CivilTime) : Int := c.date.daysBefore * 86400000 + c.ofDay

/-- Earlier by the clock. -/
def ClockBefore (c d : CivilTime) : Prop :=
  c.hour < d.hour ∨ c.hour = d.hour ∧ (c.minute < d.minute ∨ c.minute = d.minute ∧
    (c.second < d.second ∨ c.second = d.second ∧ c.milli < d.milli))

/-- Earlier by calendar and clock. -/
def Before (c d : CivilTime) : Prop :=
  c.date.Before d.date ∨ c.date = d.date ∧ c.ClockBefore d

/-- The time of an instant. -/
def ofMillis (ms : Int) : CivilTime where
  date := .ofDayNumber (ms / 86400000)
  hour := (ms % 86400000 / 3600000).toNat
  minute := (ms / 60000 % 60).toNat
  second := (ms / 1000 % 60).toNat
  milli := (ms % 1000).toNat

theorem valid_ofMillis (ms : Int) : (ofMillis ms).Valid := by
  refine ⟨CalendarDate.exists_ofDayNumber _, ?_, ?_, ?_, ?_⟩ <;>
    simp only [ofMillis] <;> omega

theorem millis_ofMillis (ms : Int) : (ofMillis ms).millis = ms := by
  have day := CalendarDate.dayNumber_ofDayNumber (ms / 86400000)
  rw [CalendarDate.dayNumber_eq (CalendarDate.exists_ofDayNumber _)] at day
  simp only [millis, ofMillis, ofDay, day]
  omega

theorem ofDay_lt {c : CivilTime} (valid : c.Valid) : c.ofDay < 86400000 := by
  obtain ⟨-, hour, minute, second, milli⟩ := valid
  unfold ofDay
  omega

/-- Later times are later by the calendar and the clock. -/
theorem millis_lt {c d : CivilTime} (here : c.Valid) (there : d.Valid) (before : c.Before d) :
    c.millis < d.millis := by
  have day := ofDay_lt here
  unfold millis
  rcases before with date | ⟨date, clock⟩
  · have days := CalendarDate.daysBefore_lt here.date there.date date
    omega
  · obtain ⟨-, -, minute, second, milli⟩ := here
    rw [date]
    unfold ofDay
    unfold ClockBefore at clock
    omega

theorem before_or_eq (c d : CivilTime) : c.Before d ∨ c = d ∨ d.Before c := by
  rcases CalendarDate.before_or_eq c.date d.date with date | date | date
  · exact .inl (.inl date)
  · have clock : c.ClockBefore d ∨ (c.hour = d.hour ∧ c.minute = d.minute ∧ c.second = d.second ∧
        c.milli = d.milli) ∨ d.ClockBefore c := by
      unfold ClockBefore
      omega
    rcases clock with less | ⟨hour, minute, second, milli⟩ | more
    · exact .inl (.inr ⟨date, less⟩)
    · cases c
      cases d
      exact .inr (.inl (CivilTime.mk.injEq .. ▸ ⟨date, hour, minute, second, milli⟩))
    · exact .inr (.inr (.inr ⟨date.symm, more⟩))
  · exact .inr (.inr (.inl date))

/-- A millisecond has one date and time. -/
theorem millis_inj {c d : CivilTime} (here : c.Valid) (there : d.Valid)
    (same : c.millis = d.millis) : c = d := by
  rcases before_or_eq c d with before | equal | after
  · have := millis_lt here there before
    omega
  · exact equal
  · have := millis_lt there here after
    omega

theorem ofMillis_millis {c : CivilTime} (valid : c.Valid) : ofMillis c.millis = c :=
  millis_inj (valid_ofMillis _) valid (millis_ofMillis _)

end CivilTime

end SchemaSource
