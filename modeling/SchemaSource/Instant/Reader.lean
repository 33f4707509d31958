import SchemaSource.Instant
/-!
Reading date and time text in the form of RFC 3339. The text is checked from left to right and the
first fault is reported.

Assumed of the date library that does this: both letters may be small and a space may stand for the
first one; any minute may end in a second numbered 60; a second may have any number of decimal
places, of which nine count; the mathematical minus is as good as the hyphen; an offset has minutes
below 60 and comes to less than a day; and a text of fewer than 19 bytes is too short whatever it
says.
-/
namespace SchemaSource.Instant

inductive TextError where
  | tooShort
  | invalid
  | outOfRange
  | trailing
  deriving DecidableEq, Repr

def TextError.message : TextError → String
  | .tooShort => "premature end of input"
  | .invalid => "input contains invalid characters"
  | .outOfRange => "input is out of range"
  | .trailing => "trailing input"

namespace Reader

abbrev Reading (α : Type) := List Char → Except TextError (α × List Char)

/-- A digit of the fixed part, which has no room for anything else. -/
def digit : Reading Nat
  | c :: rest => if c.isDigit then .ok (c.toNat - '0'.toNat, rest) else .error .invalid
  | [] => .error .invalid

def digits : Nat → Reading Nat
  | 0, text => .ok (0, text)
  | count + 1, text => do
    let (high, text) ← digits count text
    let (low, text) ← digit text
    return (high * 10 + low, text)

def oneOf (allowed : List Char) : Reading Unit
  | c :: rest => if c ∈ allowed then .ok ((), rest) else .error .invalid
  | [] => .error .invalid

/-- Nanoseconds after a point. Digits past the ninth are read and dropped. -/
def fraction : Reading Nat
  | '.' :: text =>
    let digits := text.takeWhile Char.isDigit
    if text.isEmpty then .error .tooShort
    else if digits.isEmpty then .error .invalid
    else
      let kept := digits.take 9
      let value := kept.foldl (fun n c => n * 10 + (c.toNat - '0'.toNat)) 0
      .ok (value * 10 ^ (9 - kept.length), text.dropWhile Char.isDigit)
  | text => .ok (0, text)

/-- Two digits of an offset as characters. -/
def pair : Reading (Char × Char)
  | a :: b :: rest => .ok ((a, b), rest)
  | [c] => if c.utf8Size ≥ 2 then .error .invalid else .error .tooShort
  | [] => .error .tooShort

/-- Hours and minutes east, in seconds, after the sign. -/
def offsetTail (sign : Int) : Reading Int := fun text => do
  let ((h, h'), text) ← pair text
  if !(h.isDigit && h'.isDigit) then throw .invalid
  let text ← match text with
    | ':' :: rest => pure rest
    | _ :: _ => throw .invalid
    | [] => throw .tooShort
  let ((m, m'), text) ← pair text
  if !(m.isDigit && m'.isDigit) then throw .invalid
  if '6' ≤ m then throw .outOfRange
  let hours := (h.toNat - '0'.toNat) * 10 + (h'.toNat - '0'.toNat)
  let minutes := (m.toNat - '0'.toNat) * 10 + (m'.toNat - '0'.toNat)
  return (sign * (hours * 3600 + minutes * 60 : Nat), text)

/-- The offset from universal time in seconds. A minus may also be the mathematical sign. -/
def offset : Reading Int
  | 'Z' :: rest => .ok (0, rest)
  | 'z' :: rest => .ok (0, rest)
  | '+' :: rest => offsetTail 1 rest
  | '-' :: rest => offsetTail (-1) rest
  | '\u2212' :: rest => offsetTail (-1) rest
  | _ :: _ => .error .invalid
  | [] => .error .tooShort

/-- The day, checked against the calendar as soon as it is read. -/
def date : Reading CalendarDate := fun text => do
  let (year, text) ← digits 4 text
  let (_, text) ← oneOf ['-'] text
  let (month, text) ← digits 2 text
  let (_, text) ← oneOf ['-'] text
  let (day, text) ← digits 2 text
  let date : CalendarDate := ⟨year, month, day⟩
  if date.exists? then return (date, text) else throw .outOfRange

/-- Seconds since midnight and nanoseconds. Any minute may have a leap second. -/
def time : Reading (Nat × Nat) := fun text => do
  let (hour, text) ← digits 2 text
  let (_, text) ← oneOf [':'] text
  let (minute, text) ← digits 2 text
  let (_, text) ← oneOf [':'] text
  let (second, text) ← digits 2 text
  let (nanos, text) ← fraction text
  if hour < 24 && minute < 60 && second ≤ 60 then
    let leap := second = 60
    let second := if leap then 59 else second
    return ((hour * 3600 + minute * 60 + second, if leap then nanos + 1000000000 else nanos), text)
  else throw .outOfRange

end Reader

open Reader in
/-- The instant that a text names, or its first fault. -/
def ofText (text : String) : Except TextError Instant := do
  if text.utf8ByteSize < 19 then throw .tooShort
  let (date, rest) ← Reader.date text.toList
  let (_, rest) ← oneOf ['T', 't', ' '] rest
  let ((second, nanos), rest) ← Reader.time rest
  let (offset, rest) ← Reader.offset rest
  if !rest.isEmpty then throw .trailing
  if offset.natAbs ≥ 86400 then throw .outOfRange
  return ⟨date.dayNumber * 86400 + second - offset, nanos⟩

end SchemaSource.Instant
