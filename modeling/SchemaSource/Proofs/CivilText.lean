import SchemaSource.Proofs.DateReading
/-!
The text of universal time. It is the year and then digits of a fixed width, so that the text of an
instant whose year has four digits is read back as that instant, and later instants have later
texts.
-/
namespace SchemaSource

namespace CivilTime

open Instant

/-- What follows the year in the text of a time. -/
def afterYear (c : CivilTime) : String :=
  "-" ++ padded 2 c.date.month ++ "-" ++ padded 2 c.date.day ++ "T" ++ padded 2 c.hour ++ ":"
    ++ padded 2 c.minute ++ ":" ++ padded 2 c.second ++ "." ++ padded 3 c.milli ++ "Z"

def text (c : CivilTime) : String := yearText c.date.year ++ c.afterYear

/-- An instant is written as its time. -/
theorem isoText_ofMillis (ms : Int) : (Instant.ofMillis ms).isoText = (ofMillis ms).text := by
  have date : (Instant.ofMillis ms).date = (ofMillis ms).date := by
    simp only [Instant.date, Instant.ofMillis, ofMillis]
    congr 1
    omega
  have hour : (Instant.ofMillis ms).secondOfDay / 3600 = (ofMillis ms).hour := by
    simp only [secondOfDay, Instant.ofMillis, ofMillis]
    omega
  have minute : (Instant.ofMillis ms).secondOfDay / 60 % 60 = (ofMillis ms).minute := by
    simp only [secondOfDay, Instant.ofMillis, ofMillis]
    omega
  have second : (Instant.ofMillis ms).secondOfDay % 60 +
      (Instant.ofMillis ms).nanos / 1000000000 = (ofMillis ms).second := by
    simp only [secondOfDay, Instant.ofMillis, ofMillis]
    omega
  have milli : (Instant.ofMillis ms).nanos % 1000000000 / 1000000 = (ofMillis ms).milli := by
    simp only [Instant.ofMillis, ofMillis]
    omega
  rw [isoText, text]
  -- By `delta` here and below, for the equation of `afterYear` takes seconds to generate.
  delta afterYear
  simp only [date, hour, minute, second, milli, String.append_assoc]

/-! ## Years of four digits -/

/-- The year is written with four digits and no sign. -/
def IsPlainYear (c : CivilTime) : Prop := 0 ≤ c.date.year ∧ c.date.year ≤ 9999

section Plain

variable {c : CivilTime} (valid : c.Valid)
include valid

theorem toList_text (plain : c.IsPlainYear) : c.text.toList =
    fixedDigits 4 c.date.year.toNat ++ '-' :: (fixedDigits 2 c.date.month ++
      '-' :: (fixedDigits 2 c.date.day ++ 'T' :: (fixedDigits 2 c.hour ++
        ':' :: (fixedDigits 2 c.minute ++ ':' :: (fixedDigits 2 c.second ++
          '.' :: (fixedDigits 3 c.milli ++ ['Z'])))))) := by
  have days := valid.date.day_le_31
  have months := valid.date.lastMonth
  obtain ⟨-, hours, minutes, seconds, millis⟩ := valid
  obtain ⟨year0, year9999⟩ := plain
  rw [text, yearText, if_pos ⟨year0, year9999⟩]
  delta afterYear
  simp only [String.toList_append]
  rw [toList_padded (by decide) (by omega), toList_padded (by decide) (by omega),
    toList_padded (by decide) (by omega), toList_padded (by decide) (by omega),
    toList_padded (by decide) (by omega), toList_padded (by decide) (by omega),
    toList_padded (by decide) (by omega)]
  simp only [List.append_assoc]
  rfl

/-- Later times have later texts. -/
theorem text_lt {d : CivilTime} (valid' : d.Valid) (plain : c.IsPlainYear) (plain' : d.IsPlainYear)
    (before : c.Before d) : c.text < d.text := by
  have days := valid'.date.day_le_31
  have months := valid'.date.lastMonth
  rw [String.lt_iff_toList_lt, toList_text valid plain, toList_text valid' plain']
  obtain ⟨-, hours, minutes, seconds, millis⟩ := valid'
  obtain ⟨year0, year9999⟩ := plain
  obtain ⟨year0', year9999'⟩ := plain'
  rcases before with (year | ⟨year, month | ⟨month, day⟩⟩) | ⟨date, clock⟩
  · exact fixedDigits_lt (by omega) (by omega) _ _
  · rw [year]
    exact append_mark_lt (fixedDigits_lt (by omega) month _ _)
  · rw [year, month]
    exact append_mark_lt (append_mark_lt (fixedDigits_lt (by omega) day _ _))
  · rw [date]
    refine append_mark_lt (append_mark_lt (append_mark_lt ?_))
    rcases clock with hour | ⟨hour, minute | ⟨minute, second | ⟨second, milli⟩⟩⟩
    · exact fixedDigits_lt (by omega) hour _ _
    · rw [hour]
      exact append_mark_lt (fixedDigits_lt (by omega) minute _ _)
    · rw [hour, minute]
      exact append_mark_lt (append_mark_lt (fixedDigits_lt (by omega) second _ _))
    · rw [hour, minute, second]
      exact append_mark_lt (append_mark_lt (append_mark_lt (fixedDigits_lt (by omega) milli _ _)))

end Plain

end CivilTime

/-! ## Reading a text -/

namespace CivilTime

/-- A time as its text has it, with three digits for the milliseconds. -/
def dateTime (c : CivilTime) : DateTime where
  date := c.date
  separator := 'T'
  clock := ⟨c.hour, c.minute, c.second, fixedDigits 3 c.milli⟩
  zone := .universal 'Z'

theorem Valid.dateTime {c : CivilTime} (valid : c.Valid) (plain : c.IsPlainYear) :
    c.dateTime.Valid := by
  obtain ⟨date, hours, minutes, seconds, -⟩ := valid
  exact {
    date
    year := plain
    separator := List.mem_cons_self
    clock := ⟨hours, minutes, Nat.le_of_lt seconds, isDigit_fixedDigits 3 c.milli⟩
    zone := .inl rfl
    offset := show 0 < 86400 by decide }

theorem fractionNanos_millis {milli : Nat} (fits : milli < 1000) :
    ClockTime.fractionNanos (fixedDigits 3 milli) = milli * 1000000 := by
  have length := length_fixedDigits 3 milli
  have kept : (fixedDigits 3 milli).take 9 = fixedDigits 3 milli :=
    List.take_of_length_le (by omega)
  rw [ClockTime.fractionNanos_eq, kept, length, foldl_fixedDigits (show milli < 10 ^ 3 from fits)]
  rfl

theorem Valid.instant {c : CivilTime} (valid : c.Valid) :
    c.dateTime.instant = Instant.ofMillis c.millis := by
  obtain ⟨some, hours, minutes, seconds, millis⟩ := valid
  have nanos := fractionNanos_millis millis
  have plain : c.second ≠ 60 := Nat.ne_of_lt seconds
  have day : c.date.dayNumber = c.date.daysBefore := CalendarDate.dayNumber_eq some
  have last : min c.second 59 = c.second := by omega
  simp only [DateTime.instant, CivilTime.dateTime, ClockTime.secondOfDay, ClockTime.nanos,
    Zone.seconds, Instant.ofMillis, CivilTime.millis, ofDay, nanos, plain, day, last, ↓reduceIte,
    Instant.mk.injEq]
  omega

/-- The text of a time is read back as its instant. -/
theorem ofText_text {c : CivilTime} (valid : c.Valid) (plain : c.IsPlainYear) :
    Instant.ofText c.text = .ok (Instant.ofMillis c.millis) :=
  Instant.ofText_eq_ok_iff.mpr
    ⟨c.dateTime, valid.dateTime plain, toList_text valid plain, valid.instant.symm⟩

end CivilTime

end SchemaSource
