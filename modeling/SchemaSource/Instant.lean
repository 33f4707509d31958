import SchemaSource.Calendar
import SchemaSource.Double
/-!
Instants on the Unix time line, to the nanosecond, and their text in universal time. A leap second
has no place of its own on that line: it prolongs the second before it.

They stand for those of a date library, of which this is assumed: its calendar is the Gregorian one,
continued to both sides, and reaches from the start of the year -262143 to the end of the year
262142; a leap second has a thousand million nanoseconds or more; and a text cuts off what is below
a millisecond and puts a sign before years that are not from 0 to 9999.
-/
namespace SchemaSource

/-- Seconds since the start of 1970 and nanoseconds past them. From a full second on, the
nanoseconds lie in a leap second. -/
structure Instant where
  seconds : Int
  nanos : Nat
  deriving DecidableEq, Repr

namespace Instant

/-- The instants that have a calendar date, in milliseconds. -/
def inRange (millis : Int) : Bool :=
  -8334601228800000 ≤ millis && millis ≤ 8210266876799999

def ofMillis (millis : Int) : Instant :=
  ⟨millis / 1000, (millis % 1000).toNat * 1000000⟩

/-- A number of milliseconds, its fraction cut off. Numbers beyond the calendar have none. -/
def ofMillis? (millis : Double) : Option Instant :=
  match millis.truncate? with
  | some millis => if inRange millis then some (ofMillis millis) else none
  | none => none

def date (t : Instant) : CalendarDate := .ofDayNumber (t.seconds / 86400)

def secondOfDay (t : Instant) : Nat := (t.seconds % 86400).toNat

def padded (width n : Nat) : String :=
  let digits := Nat.toDigits 10 n
  String.ofList (List.replicate (width - digits.length) '0' ++ digits)

/-- A year of four digits stands alone; any other has a sign. -/
def yearText (year : Int) : String :=
  if 0 ≤ year ∧ year ≤ 9999 then padded 4 year.toNat
  else (if year < 0 then "-" else "+") ++ padded 4 year.natAbs

/-- Date and time to the millisecond, cut off. -/
def isoText (t : Instant) : String :=
  let date := t.date
  let second := t.secondOfDay
  yearText date.year ++ "-" ++ padded 2 date.month ++ "-" ++ padded 2 date.day ++ "T"
    ++ padded 2 (second / 3600) ++ ":" ++ padded 2 (second / 60 % 60) ++ ":"
    ++ padded 2 (second % 60 + t.nanos / 1000000000) ++ "."
    ++ padded 3 (t.nanos % 1000000000 / 1000000) ++ "Z"

end Instant
end SchemaSource
