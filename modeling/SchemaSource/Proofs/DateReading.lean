import Mathlib.Data.String.Basic
import SchemaSource.Instant.Reader
import SchemaSource.Proofs.CivilTime
import SchemaSource.Proofs.FixedDigits
import SchemaSource.Proofs.Rendering
/-!
Which texts name an instant. A text is read just if it has the form of a day, a time of day and a
zone, each of them possible, and then it names the instant that these come to. Letters may be small,
a space may stand for the `T`, any minute may end in a leap second, a second may have any number of
digits after its point, and a zone is less than a day off.
-/
namespace SchemaSource

/-- No character takes less than a byte. -/
theorem Text.length_le_utf8ByteSize (s : String) : s.toList.length ≤ s.utf8ByteSize := by
  rw [← String.utf8Len_toList]
  generalize s.toList = cs
  induction cs with
  | nil => exact Nat.le_refl _
  | cons c cs ih =>
    have one := c.utf8Size_pos
    rw [String.utf8Len_cons, List.length_cons]
    omega

/-! ## Digits -/

theorem digit_digitChar {n : Nat} (small : n < 10) (rest : List Char) :
    Instant.Reader.digit (Nat.digitChar n :: rest) = .ok (n, rest) := by
  obtain ⟨digit, value⟩ := isDigit_digitChar small
  rw [Instant.Reader.digit, if_pos digit, value]

theorem digits_fixedDigits {width n : Nat} (fits : n < 10 ^ width) (rest : List Char) :
    Instant.Reader.digits width (fixedDigits width n ++ rest) = .ok (n, rest) := by
  induction width generalizing n rest with
  | zero =>
    obtain rfl : n = 0 := by
      rw [Nat.pow_zero] at fits
      omega
    rfl
  | succ width ih =>
    have higher : n / 10 < 10 ^ width := by
      rw [Nat.pow_succ] at fits
      omega
    have last := digit_digitChar (Nat.mod_lt n (by decide : 0 < 10)) rest
    have value : n / 10 * 10 + n % 10 = n := by omega
    rw [fixedDigits, List.append_assoc, Instant.Reader.digits, ih higher]
    change (Instant.Reader.digit (Nat.digitChar (n % 10) :: rest) >>= _) = _
    rw [last]
    change Except.ok (n / 10 * 10 + n % 10, rest) = _
    rw [value]

namespace Instant.Reader

/-! ## Parts of a text -/

theorem digitChar_of_isDigit {c : Char} (digit : c.isDigit = true) :
    c.toNat - '0'.toNat < 10 ∧ Nat.digitChar (c.toNat - '0'.toNat) = c := by
  obtain ⟨low, high⟩ := Char.isDigit_iff_toNat.mp digit
  have zero : '0'.toNat = 48 := rfl
  have nine : '9'.toNat = 57 := rfl
  have small : c.toNat - '0'.toNat < 10 := by omega
  refine ⟨small, Char.toNat_inj.mp ?_⟩
  rw [Nat.toNat_digitChar_of_lt_ten small]
  omega

theorem digit_eq_ok_iff {text rest : List Char} {n : Nat} :
    digit text = .ok (n, rest) ↔ n < 10 ∧ text = Nat.digitChar n :: rest := by
  constructor
  · intro read
    cases text with
    | nil => cases read
    | cons c tail =>
      rw [digit] at read
      split at read
      · next isDigit =>
        cases read
        obtain ⟨small, same⟩ := digitChar_of_isDigit isDigit
        exact ⟨small, by rw [same]⟩
      · cases read
  · rintro ⟨small, rfl⟩
    exact digit_digitChar small rest

theorem digits_eq_ok_iff {width n : Nat} {text rest : List Char} :
    digits width text = .ok (n, rest) ↔ n < 10 ^ width ∧ text = fixedDigits width n ++ rest := by
  refine ⟨fun read => ?_, fun ⟨fits, same⟩ => same ▸ digits_fixedDigits fits rest⟩
  induction width generalizing n rest with
  | zero =>
    cases read
    exact ⟨Nat.one_pos, rfl⟩
  | succ width ih =>
    obtain ⟨⟨high, after⟩, first, read⟩ := bind_eq_ok_iff.mp read
    obtain ⟨⟨low, last⟩, second, read⟩ := bind_eq_ok_iff.mp read
    cases read
    obtain ⟨fits, rfl⟩ := ih first
    obtain ⟨small, rfl⟩ := digit_eq_ok_iff.mp second
    have higher : (high * 10 + low) / 10 = high := by omega
    have lowest : (high * 10 + low) % 10 = low := by omega
    rw [Nat.pow_succ, fixedDigits, higher, lowest, List.append_assoc]
    exact ⟨by omega, rfl⟩

theorem oneOf_eq_ok_iff {allowed text rest : List Char} {u : Unit} :
    oneOf allowed text = .ok (u, rest) ↔ ∃ c ∈ allowed, text = c :: rest := by
  constructor
  · intro read
    cases text with
    | nil => cases read
    | cons c tail =>
      rw [oneOf] at read
      split at read
      · next member =>
        cases read
        exact ⟨c, member, rfl⟩
      · cases read
  · rintro ⟨c, member, rfl⟩
    exact if_pos member

/-- One character that is required. -/
theorem oneOf_mark_eq_ok_iff {mark : Char} {text rest : List Char} {u : Unit} :
    oneOf [mark] text = .ok (u, rest) ↔ text = mark :: rest := by
  simp [oneOf_eq_ok_iff]

end Instant.Reader

/-! ## Days -/

namespace CalendarDate

/-- A day as it is written in a text. -/
def chars (date : CalendarDate) : List Char :=
  fixedDigits 4 date.year.toNat ++
    '-' :: (fixedDigits 2 date.month ++ '-' :: fixedDigits 2 date.day)

theorem Exists.day_le_31 {date : CalendarDate} (some : date.Exists) : date.day ≤ 31 := by
  have last := some.lastDay
  have longest : daysInMonth date.year date.month ≤ 31 := by
    unfold daysInMonth
    repeat' split
    all_goals decide
  omega

end CalendarDate

namespace Instant.Reader

/-- A day is read if the calendar has it. -/
theorem date_eq_ok_iff {date : CalendarDate} {text rest : List Char} :
    Reader.date text = .ok (date, rest) ↔
      date.Exists ∧ (0 ≤ date.year ∧ date.year ≤ 9999) ∧ text = date.chars ++ rest := by
  constructor
  · intro read
    obtain ⟨⟨year, afterYear⟩, years, read⟩ := bind_eq_ok_iff.mp read
    obtain ⟨⟨_, _⟩, mark, read⟩ := bind_eq_ok_iff.mp read
    obtain ⟨⟨month, afterMonth⟩, months, read⟩ := bind_eq_ok_iff.mp read
    obtain ⟨⟨_, _⟩, mark', read⟩ := bind_eq_ok_iff.mp read
    obtain ⟨⟨day, afterDay⟩, days, known⟩ := bind_eq_ok_iff.mp read
    obtain ⟨yearFits, rfl⟩ := digits_eq_ok_iff.mp years
    obtain rfl := oneOf_mark_eq_ok_iff.mp mark
    obtain ⟨-, rfl⟩ := digits_eq_ok_iff.mp months
    obtain rfl := oneOf_mark_eq_ok_iff.mp mark'
    obtain ⟨-, rfl⟩ := digits_eq_ok_iff.mp days
    dsimp only at known
    split at known
    · next possible =>
      cases known
      refine ⟨(CalendarDate.exists?_iff _).mp possible, ⟨?_, ?_⟩, ?_⟩
      · exact Int.natCast_nonneg year
      · exact Int.le_of_lt_add_one (Int.ofNat_lt.mpr yearFits)
      · simp [CalendarDate.chars]
    · cases known
  · rintro ⟨some, ⟨first, last⟩, rfl⟩
    have months := some.lastMonth
    have days := some.day_le_31
    have same : (⟨(date.year.toNat : Int), date.month, date.day⟩ : CalendarDate) = date := by
      have size : (date.year.toNat : Int) = date.year := by omega
      rw [size]
    have known : date.exists? = true := (CalendarDate.exists?_iff date).mpr some
    have year (rest : List Char) := digits_fixedDigits (show date.year.toNat < 10 ^ 4 by omega) rest
    have month (rest : List Char) := digits_fixedDigits (show date.month < 10 ^ 2 by omega) rest
    have day (rest : List Char) := digits_fixedDigits (show date.day < 10 ^ 2 by omega) rest
    simp only [Reader.date, CalendarDate.chars, List.append_assoc, List.cons_append, year, month,
      day, oneOf, List.mem_singleton, bind, Except.bind, same, known, ↓reduceIte]
    rfl

end Instant.Reader

/-! ## Times of day -/

/-- A time of day as a text has it: digits after a point are there or not. -/
structure ClockTime where
  hour : Nat
  minute : Nat
  second : Nat
  fraction : List Char

namespace ClockTime

/-- Any minute may have a leap second. -/
structure Valid (clock : ClockTime) : Prop where
  hour : clock.hour < 24
  minute : clock.minute < 60
  second : clock.second ≤ 60
  fraction : ∀ c ∈ clock.fraction, c.isDigit = true

def fractionChars : List Char → List Char
  | [] => []
  | digit :: more => '.' :: digit :: more

def chars (clock : ClockTime) : List Char :=
  fixedDigits 2 clock.hour ++ ':' :: (fixedDigits 2 clock.minute ++
    ':' :: (fixedDigits 2 clock.second ++ fractionChars clock.fraction))

/-- Seconds since midnight. A leap second is no second of its own. -/
def secondOfDay (clock : ClockTime) : Nat :=
  clock.hour * 3600 + clock.minute * 60 + min clock.second 59

/-- The first nine digits of a fraction, filled up with zeros, count nanoseconds. -/
def fractionNanos (digits : List Char) : Nat :=
  ((digits ++ List.replicate 9 '0').take 9).foldl (fun n c => n * 10 + (c.toNat - '0'.toNat)) 0

theorem secondOfDay_eq (clock : ClockTime) (last : clock.second ≤ 60) : clock.secondOfDay =
    clock.hour * 3600 + clock.minute * 60 + if clock.second = 60 then 59 else clock.second := by
  rw [secondOfDay]
  split <;> omega

def nanos (clock : ClockTime) : Nat :=
  fractionNanos clock.fraction + if clock.second = 60 then 1000000000 else 0

theorem foldl_replicate_zero (count n : Nat) :
    (List.replicate count '0').foldl (fun n c => n * 10 + (c.toNat - '0'.toNat)) n =
      n * 10 ^ count := by
  induction count generalizing n with
  | zero => exact (Nat.mul_one n).symm
  | succ count ih =>
    rw [List.replicate_succ, List.foldl_cons, ih, Nat.sub_self, Nat.add_zero, Nat.mul_assoc,
      Nat.pow_succ']

theorem fractionNanos_eq (digits : List Char) : fractionNanos digits =
    (digits.take 9).foldl (fun n c => n * 10 + (c.toNat - '0'.toNat)) 0 *
      10 ^ (9 - (digits.take 9).length) := by
  rw [fractionNanos, List.take_append, List.foldl_append, List.take_replicate,
    foldl_replicate_zero]
  congr 2
  rw [List.length_take]
  omega

end ClockTime

namespace Instant.Reader

open ClockTime

/-- What follows neither starts a fraction nor continues one. -/
def EndsClock (rest : List Char) : Prop :=
  ∀ c ∈ rest.head?, c ≠ '.' ∧ c.isDigit = false

theorem fraction_chars {digits rest : List Char} (all : ∀ c ∈ digits, c.isDigit = true)
    (ends : EndsClock rest) :
    fraction (fractionChars digits ++ rest) = .ok (fractionNanos digits, rest) := by
  cases digits with
  | nil =>
    cases rest with
    | nil => rfl
    | cons c rest =>
      have other : c ≠ '.' := (ends c rfl).1
      rw [fractionChars, List.nil_append, fraction]
      · rfl
      · rintro _ ⟨⟩
        exact other rfl
  | cons digit more =>
    have stop : ∀ c ∈ rest.head?, c.isDigit = false := fun c first => (ends c first).2
    have taken : (digit :: more ++ rest).takeWhile Char.isDigit = digit :: more := by
      rw [List.takeWhile_append_of_pos all]
      cases rest with
      | nil => exact List.append_nil _
      | cons c rest =>
        rw [List.takeWhile_cons_of_neg (by simp [stop c rfl]), List.append_nil]
    have left : (digit :: more ++ rest).dropWhile Char.isDigit = rest := by
      rw [List.dropWhile_append_of_pos all]
      cases rest with
      | nil => rfl
      | cons c rest => exact List.dropWhile_cons_of_neg (by simp [stop c rfl])
    rw [fractionNanos_eq]
    change fraction ('.' :: (digit :: more ++ rest)) = _
    simp only [fraction, taken, left]
    rfl

theorem of_fraction {text rest : List Char} {nanos : Nat}
    (read : fraction text = .ok (nanos, rest)) :
    ∃ digits : List Char, (∀ c ∈ digits, c.isDigit = true) ∧ nanos = fractionNanos digits ∧
      text = fractionChars digits ++ rest := by
  unfold fraction at read
  split at read
  · next tail =>
    dsimp only at read
    split at read
    · cases read
    · split at read
      · cases read
      · next some =>
        cases read
        refine ⟨tail.takeWhile Char.isDigit, List.all_eq_true.mp List.all_takeWhile,
          (fractionNanos_eq _).symm, ?_⟩
        cases taken : tail.takeWhile Char.isDigit with
        | nil => simp [taken] at some
        | cons digit more =>
          rw [fractionChars, ← taken, List.cons_append, List.takeWhile_append_dropWhile]
  · cases read
    exact ⟨[], nofun, rfl, rfl⟩

theorem time_chars {clock : ClockTime} (valid : clock.Valid) {rest : List Char}
    (ends : EndsClock rest) :
    Reader.time (clock.chars ++ rest) = .ok ((clock.secondOfDay, clock.nanos), rest) := by
  obtain ⟨hours, minutes, seconds, digits⟩ := valid
  have proper : (clock.hour < 24 && clock.minute < 60 && clock.second ≤ 60) = true := by
    simp only [Bool.and_eq_true, decide_eq_true_eq]
    omega
  have hour (rest : List Char) := digits_fixedDigits (show clock.hour < 10 ^ 2 by omega) rest
  have minute (rest : List Char) := digits_fixedDigits (show clock.minute < 10 ^ 2 by omega) rest
  have second (rest : List Char) := digits_fixedDigits (show clock.second < 10 ^ 2 by omega) rest
  simp only [Reader.time, ClockTime.chars, List.append_assoc, List.cons_append, hour, minute,
    second, fraction_chars digits ends, oneOf, List.mem_singleton, bind, Except.bind, proper,
    ↓reduceIte]
  refine congrArg (fun parts => Except.ok (parts, rest)) (Prod.ext ?_ ?_)
  · exact (secondOfDay_eq clock seconds).symm
  · change (if clock.second = 60 then _ else _) = clock.nanos
    rw [ClockTime.nanos]
    split <;> rfl

theorem of_time {text rest : List Char} {second nanos : Nat}
    (read : Reader.time text = .ok ((second, nanos), rest)) :
    ∃ clock : ClockTime, clock.Valid ∧ second = clock.secondOfDay ∧ nanos = clock.nanos ∧
      text = clock.chars ++ rest := by
  obtain ⟨⟨hour, _⟩, hours, read⟩ := bind_eq_ok_iff.mp read
  obtain ⟨⟨_, _⟩, mark, read⟩ := bind_eq_ok_iff.mp read
  obtain ⟨⟨minute, _⟩, minutes, read⟩ := bind_eq_ok_iff.mp read
  obtain ⟨⟨_, _⟩, mark', read⟩ := bind_eq_ok_iff.mp read
  obtain ⟨⟨last, _⟩, seconds, read⟩ := bind_eq_ok_iff.mp read
  obtain ⟨⟨part, _⟩, parts, known⟩ := bind_eq_ok_iff.mp read
  obtain ⟨-, rfl⟩ := digits_eq_ok_iff.mp hours
  obtain rfl := oneOf_mark_eq_ok_iff.mp mark
  obtain ⟨-, rfl⟩ := digits_eq_ok_iff.mp minutes
  obtain rfl := oneOf_mark_eq_ok_iff.mp mark'
  obtain ⟨-, rfl⟩ := digits_eq_ok_iff.mp seconds
  obtain ⟨digits, all, rfl, rfl⟩ := of_fraction parts
  dsimp only at known
  split at known
  · next proper =>
    simp only [Bool.and_eq_true, decide_eq_true_eq] at proper
    cases known
    refine ⟨⟨hour, minute, last, digits⟩, ⟨proper.1.1, proper.1.2, proper.2, all⟩, ?_, ?_, ?_⟩
    · exact (secondOfDay_eq ⟨hour, minute, last, digits⟩ proper.2).symm
    · rw [ClockTime.nanos]
      split <;> rfl
    · simp [ClockTime.chars]
  · cases known

end Instant.Reader

/-! ## Zones -/

/-- Universal time, or a distance east of it. -/
inductive Zone where
  | universal (letter : Char)
  | offset (sign : Char) (hours minutes : Nat)

namespace Zone

/-- A minus may also be the mathematical sign. -/
def IsWritten : Zone → Prop
  | .universal letter => letter = 'Z' ∨ letter = 'z'
  | .offset sign hours minutes =>
    (sign = '+' ∨ sign = '-' ∨ sign = '\u2212') ∧ hours < 100 ∧ minutes < 60

def chars : Zone → List Char
  | .universal letter => [letter]
  | .offset sign hours minutes => sign :: (fixedDigits 2 hours ++ ':' :: fixedDigits 2 minutes)

/-- Seconds east. -/
def seconds : Zone → Int
  | .universal _ => 0
  | .offset sign hours minutes =>
    (if sign = '+' then 1 else -1) * (hours * 3600 + minutes * 60 : Nat)

/-- A zone ends a time of day, since it starts with a sign or a letter. -/
theorem IsWritten.endsClock {zone : Zone} (written : zone.IsWritten) :
    Instant.Reader.EndsClock zone.chars := by
  rintro c first
  cases zone with
  | universal letter =>
    cases first
    rcases written with rfl | rfl <;> decide
  | offset sign hours minutes =>
    cases first
    rcases written.1 with rfl | rfl | rfl <;> decide

end Zone

namespace Instant.Reader

theorem pair_eq_ok_iff {text rest : List Char} {a b : Char} :
    pair text = .ok ((a, b), rest) ↔ text = a :: b :: rest := by
  constructor
  · intro read
    unfold pair at read
    split at read
    · cases read
      rfl
    · split at read <;> cases read
    · cases read
  · rintro rfl
    rfl

theorem fixedDigits_two {a b : Char} (first : a.isDigit = true) (second : b.isDigit = true) :
    (a.toNat - '0'.toNat) * 10 + (b.toNat - '0'.toNat) < 100 ∧
      fixedDigits 2 ((a.toNat - '0'.toNat) * 10 + (b.toNat - '0'.toNat)) = [a, b] := by
  obtain ⟨small, same⟩ := digitChar_of_isDigit first
  obtain ⟨small', same'⟩ := digitChar_of_isDigit second
  have read : digits 2 [a, b] =
      .ok ((a.toNat - '0'.toNat) * 10 + (b.toNat - '0'.toNat), []) := by
    simp [digits, digit, first, second, bind, Except.bind, pure, Except.pure]
  obtain ⟨fits, written⟩ := digits_eq_ok_iff.mp read
  exact ⟨fits, by rw [written, List.append_nil]⟩

theorem exists_fixedDigits_two {n : Nat} (fits : n < 100) : ∃ a b : Char, a.isDigit = true ∧
    b.isDigit = true ∧ fixedDigits 2 n = [a, b] ∧
      (a.toNat - '0'.toNat) * 10 + (b.toNat - '0'.toNat) = n := by
  obtain ⟨first, high⟩ := isDigit_digitChar (show n / 10 % 10 < 10 by omega)
  obtain ⟨second, low⟩ := isDigit_digitChar (show n % 10 < 10 by omega)
  refine ⟨_, _, first, second, rfl, ?_⟩
  rw [high, low]
  omega

theorem six_le_iff {a b : Char} (second : b.isDigit = true) :
    '6' ≤ a ↔ 60 ≤ (a.toNat - '0'.toNat) * 10 + (b.toNat - '0'.toNat) := by
  obtain ⟨small, -⟩ := digitChar_of_isDigit second
  have least : '6' ≤ a ↔ '6'.toNat ≤ a.toNat := UInt32.le_iff_toNat_le
  have six : '6'.toNat = 54 := rfl
  have zero : '0'.toNat = 48 := rfl
  rw [least]
  omega

theorem offsetTail_eq_ok_iff {sign seconds : Int} {text rest : List Char} :
    offsetTail sign text = .ok (seconds, rest) ↔ ∃ hours minutes : Nat, hours < 100 ∧ minutes < 60 ∧
      seconds = sign * (hours * 3600 + minutes * 60 : Nat) ∧
        text = fixedDigits 2 hours ++ ':' :: (fixedDigits 2 minutes ++ rest) := by
  constructor
  · intro read
    obtain ⟨⟨⟨h, h'⟩, afterHours⟩, hours, known⟩ := bind_eq_ok_iff.mp read
    obtain rfl := pair_eq_ok_iff.mp hours
    dsimp only at known
    split at known
    · cases known
    · next hourDigits =>
      split at known
      · next afterColon =>
        obtain ⟨_, same, known⟩ := bind_eq_ok_iff.mp known
        cases same
        obtain ⟨⟨⟨m, m'⟩, last⟩, minutes, decided⟩ := bind_eq_ok_iff.mp known
        obtain rfl := pair_eq_ok_iff.mp minutes
        dsimp only at decided
        split at decided
        · cases decided
        · next minuteDigits =>
          split at decided
          · cases decided
          · next fits =>
            cases decided
            simp only [Bool.not_eq_true, Bool.not_eq_false', Bool.and_eq_true]
              at hourDigits minuteDigits
            obtain ⟨hoursFit, written⟩ := fixedDigits_two hourDigits.1 hourDigits.2
            obtain ⟨-, written'⟩ := fixedDigits_two minuteDigits.1 minuteDigits.2
            rw [six_le_iff minuteDigits.2] at fits
            exact ⟨_, _, hoursFit, Nat.lt_of_not_le fits, rfl, by rw [written, written']; rfl⟩
      · cases known
      · cases known
  · rintro ⟨hours, minutes, hoursFit, minutesFit, rfl, rfl⟩
    obtain ⟨h, h', first, second, written, value⟩ := exists_fixedDigits_two hoursFit
    obtain ⟨m, m', first', second', written', value'⟩ :=
      exists_fixedDigits_two (show minutes < 100 by omega)
    have fits : ¬ '6' ≤ m := by
      rw [six_le_iff second', value']
      omega
    simp only [offsetTail, written, written', List.cons_append, List.nil_append, pair, first,
      second, first', second', fits, value, value', bind, Except.bind, pure, Except.pure,
      Bool.and_self, Bool.not_true, Bool.false_eq_true, ↓reduceIte]

theorem offset_eq_ok_iff {seconds : Int} {text rest : List Char} :
    offset text = .ok (seconds, rest) ↔
      ∃ zone : Zone, zone.IsWritten ∧ seconds = zone.seconds ∧ text = zone.chars ++ rest := by
  constructor
  · intro read
    unfold offset at read
    split at read
    · cases read
      exact ⟨.universal 'Z', .inl rfl, rfl, rfl⟩
    · cases read
      exact ⟨.universal 'z', .inr rfl, rfl, rfl⟩
    · obtain ⟨hours, minutes, hoursFit, minutesFit, rfl, rfl⟩ := offsetTail_eq_ok_iff.mp read
      exact ⟨.offset '+' hours minutes, ⟨.inl rfl, hoursFit, minutesFit⟩, rfl,
        by simp [Zone.chars]⟩
    · obtain ⟨hours, minutes, hoursFit, minutesFit, rfl, rfl⟩ := offsetTail_eq_ok_iff.mp read
      exact ⟨.offset '-' hours minutes, ⟨.inr (.inl rfl), hoursFit, minutesFit⟩, rfl,
        by simp [Zone.chars]⟩
    · obtain ⟨hours, minutes, hoursFit, minutesFit, rfl, rfl⟩ := offsetTail_eq_ok_iff.mp read
      exact ⟨.offset '\u2212' hours minutes, ⟨.inr (.inr rfl), hoursFit, minutesFit⟩, rfl,
        by simp [Zone.chars]⟩
    · cases read
    · cases read
  · rintro ⟨zone, written, rfl, rfl⟩
    cases zone with
    | universal letter => rcases written with rfl | rfl <;> rfl
    | offset sign hours minutes =>
      obtain ⟨sign, hoursFit, minutesFit⟩ := written
      have tail (sign : Int) : offsetTail sign
          (fixedDigits 2 hours ++ ':' :: (fixedDigits 2 minutes ++ rest)) = .ok _ :=
        offsetTail_eq_ok_iff.mpr ⟨hours, minutes, hoursFit, minutesFit, rfl, rfl⟩
      simp only [Zone.chars, List.cons_append, List.append_assoc]
      rcases sign with rfl | rfl | rfl
      · exact tail 1
      · exact tail (-1)
      · exact tail (-1)

end Instant.Reader

/-! ## Texts -/

/-- A date and time as a text has it. -/
structure DateTime where
  date : CalendarDate
  separator : Char
  clock : ClockTime
  zone : Zone

namespace DateTime

structure Valid (dateTime : DateTime) : Prop where
  date : dateTime.date.Exists
  year : 0 ≤ dateTime.date.year ∧ dateTime.date.year ≤ 9999
  separator : dateTime.separator ∈ ['T', 't', ' ']
  clock : dateTime.clock.Valid
  zone : dateTime.zone.IsWritten
  /-- The zone is less than a day off. -/
  offset : dateTime.zone.seconds.natAbs < 86400

def chars (dateTime : DateTime) : List Char :=
  dateTime.date.chars ++ dateTime.separator :: (dateTime.clock.chars ++ dateTime.zone.chars)

def instant (dateTime : DateTime) : Instant where
  seconds :=
    dateTime.date.dayNumber * 86400 + dateTime.clock.secondOfDay - dateTime.zone.seconds
  nanos := dateTime.clock.nanos

end DateTime

/-- **A text is read just if it is a possible date and time**, and then it names its instant. -/
theorem Instant.ofText_eq_ok_iff {text : String} {instant : Instant} :
    Instant.ofText text = .ok instant ↔ ∃ dateTime : DateTime,
      dateTime.Valid ∧ text.toList = dateTime.chars ∧ instant = dateTime.instant := by
  constructor
  · intro read
    unfold ofText at read
    dsimp only at read
    split at read
    · cases read
    · obtain ⟨⟨date, _⟩, days, read⟩ := bind_eq_ok_iff.mp read
      obtain ⟨⟨_, _⟩, separators, read⟩ := bind_eq_ok_iff.mp read
      obtain ⟨⟨⟨second, nanos⟩, _⟩, times, read⟩ := bind_eq_ok_iff.mp read
      obtain ⟨⟨offset, rest⟩, offsets, known⟩ := bind_eq_ok_iff.mp read
      obtain ⟨some, year, chars⟩ := Reader.date_eq_ok_iff.mp days
      obtain ⟨separator, allowed, rfl⟩ := Reader.oneOf_eq_ok_iff.mp separators
      obtain ⟨clock, valid, rfl, rfl, rfl⟩ := Reader.of_time times
      obtain ⟨zone, written, rfl, rfl⟩ := Reader.offset_eq_ok_iff.mp offsets
      dsimp only at known
      split at known
      · cases known
      · next ended =>
        split at known
        · cases known
        · next near =>
          cases known
          obtain rfl : rest = [] := by simpa using ended
          exact ⟨⟨date, separator, clock, zone⟩,
            ⟨some, year, allowed, valid, written, Nat.lt_of_not_le near⟩,
            by rw [chars, List.append_nil]; rfl, rfl⟩
  · rintro ⟨dateTime, valid, chars, rfl⟩
    obtain ⟨some, year, allowed, clock, written, near⟩ := valid
    have long : 19 ≤ text.utf8ByteSize := by
      have size := Text.length_le_utf8ByteSize text
      rw [chars] at size
      simp only [DateTime.chars, CalendarDate.chars, ClockTime.chars, List.length_append,
        List.length_cons, length_fixedDigits] at size
      omega
    have date (rest : List Char) : Reader.date (dateTime.date.chars ++ rest) = .ok _ :=
      Reader.date_eq_ok_iff.mpr ⟨some, year, rfl⟩
    have separator (rest : List Char) :
        Reader.oneOf ['T', 't', ' '] (dateTime.separator :: rest) = .ok ((), rest) :=
      Reader.oneOf_eq_ok_iff.mpr ⟨_, allowed, rfl⟩
    have zone : Reader.offset dateTime.zone.chars = .ok (dateTime.zone.seconds, []) :=
      Reader.offset_eq_ok_iff.mpr ⟨dateTime.zone, written, rfl, (List.append_nil _).symm⟩
    unfold ofText
    rw [chars, DateTime.chars]
    simp only [Nat.not_lt.mpr long, Nat.not_le.mpr near, date, separator,
      Reader.time_chars clock written.endsClock, zone, bind, Except.bind, ↓reduceIte]
    rfl

/-- Half a second into the leap second at the end of 2016. -/
example : Instant.ofText "2016-12-31t15:59:60.5-08:00" = .ok ⟨1483228799, 1500000000⟩ := by
  decide +kernel

end SchemaSource
