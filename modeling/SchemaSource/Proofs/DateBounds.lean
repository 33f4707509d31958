import SchemaSource.Proofs.CivilText
import SchemaSource.Proofs.Faults
import SchemaSource.Proofs.Normalization
import SchemaSource.Proofs.Views
/-!
Date bounds given as numbers, against the dates of the host that runs a generated module. Both count
milliseconds, cut off fractions and print universal time. They part where the calendar here ends
before that of the host, and in years that take a sign: the host writes six digits of them.
-/
namespace SchemaSource

/-! ## The dates of the host -/

/-- A year of four digits stands alone; any other has a sign and six digits. -/
def hostYear (year : Int) : String :=
  if 0 ≤ year ∧ year ≤ 9999 then Instant.padded 4 year.toNat
  else (if year < 0 then "-" else "+") ++ Instant.padded 6 year.natAbs

def CivilTime.hostText (c : CivilTime) : String := hostYear c.date.year ++ c.afterYear

/-- The host has dates for this many milliseconds before and after the start of 1970. -/
def hostLimit : Nat := 8640000000000000

/-- The size of a number is at most the limit of the host's dates. -/
def Double.IsWithinHost (x : Double) : Prop :=
  x.isFinite = true ∧ x.scaled.natAbs ≤ hostLimit * 2 ^ 1074

/-- The host makes a date of a number, and this is its text. -/
def HostDate (x : Double) (text : String) : Prop :=
  x.IsWithinHost ∧ ∃ c : CivilTime, c.Valid ∧ x.truncate? = some c.millis ∧ text = c.hostText

theorem natAbs_signed (negative : Bool) (n : Nat) :
    (if negative then -(n : Int) else n).natAbs = n := by
  cases negative with
  | false => exact Int.natAbs_natCast n
  | true => exact (Int.natAbs_neg n).trans (Int.natAbs_natCast n)

section Size

variable {negative : Bool} {mantissa : Nat} {exponent : Int}
  (canonical : Double.Canonical mantissa exponent)

theorem Double.natAbs_scaled : (Double.finite negative mantissa exponent canonical).scaled.natAbs =
    mantissa * 2 ^ (exponent + 1074).toNat := by
  have size : (mantissa : Int) * 2 ^ (exponent + 1074).toNat =
      (mantissa * 2 ^ (exponent + 1074).toNat : Nat) := by
    push_cast
    rfl
  rw [scaled, size]
  exact natAbs_signed negative _

theorem Double.natAbs_truncate? {ms : Int}
    (cut : (Double.finite negative mantissa exponent canonical).truncate? = some ms) :
    ms.natAbs = mantissa * 2 ^ exponent.toNat / 2 ^ (-exponent).toNat := by
  rw [truncate?, Option.some.injEq] at cut
  rw [← cut]
  exact natAbs_signed negative _

end Size

/-- Only numbers without a fraction come near the limit, so cutting one off does not cross it. -/
theorem within_iff {mantissa : Nat} {exponent : Int} (short : mantissa < 2 ^ 53) {places : Nat}
    (some : 0 < places) :
    mantissa * 2 ^ (exponent + places).toNat ≤ hostLimit * 2 ^ places ↔
      mantissa * 2 ^ exponent.toNat / 2 ^ (-exponent).toNat ≤ hostLimit := by
  rcases Int.lt_or_le exponent 0 with fraction | integer
  · refine iff_of_true ?_ ?_
    · have power : 2 ^ (exponent + places).toNat * 2 ≤ 2 ^ places := by
        rw [← Nat.pow_succ]
        exact Nat.pow_le_pow_right Nat.two_pos (by omega)
      calc mantissa * 2 ^ (exponent + places).toNat
          ≤ 2 ^ 53 * 2 ^ (exponent + places).toNat :=
            Nat.mul_le_mul_right _ (Nat.le_of_lt short)
        _ = 2 ^ 52 * (2 ^ (exponent + places).toNat * 2) := by omega
        _ ≤ 2 ^ 52 * 2 ^ places := Nat.mul_le_mul_left _ power
        _ ≤ hostLimit * 2 ^ places := Nat.mul_le_mul_right _ (by decide)
    · have whole : exponent.toNat = 0 := by omega
      have half : 2 ≤ 2 ^ (-exponent).toNat := by
        calc 2 = 2 ^ 1 := rfl
          _ ≤ 2 ^ (-exponent).toNat := Nat.pow_le_pow_right (by decide) (by omega)
      have below : mantissa / 2 ^ (-exponent).toNat ≤ mantissa / 2 :=
        Nat.div_le_div_left half (by decide)
      rw [whole, Nat.pow_zero, Nat.mul_one]
      unfold hostLimit
      omega
  · have whole : (-exponent).toNat = 0 := by omega
    have shift : (exponent + places).toNat = exponent.toNat + places := by omega
    rw [whole, shift, Nat.pow_zero, Nat.div_one, Nat.pow_add, ← Nat.mul_assoc]
    exact Nat.mul_le_mul_right_iff (Nat.two_pow_pos places)

theorem Double.isWithinHost_iff {x : Double} {ms : Int} (cut : x.truncate? = some ms) :
    x.IsWithinHost ↔ ms.natAbs ≤ hostLimit := by
  cases x with
  | nan => cases cut
  | infinite negative => cases cut
  | finite negative mantissa exponent canonical =>
    have within := @within_iff mantissa exponent canonical.1 1074 (by decide)
    rw [← natAbs_truncate? canonical cut, Int.cast_ofNat_Int, ← natAbs_scaled canonical] at within
    exact (and_iff_right rfl).trans within

/-! ## Agreement with the host -/

/-- The milliseconds of a number, if the calendar reaches that far. -/
def dated? (x : Double) : Option Int := x.truncate?.filter Instant.inRange

/-- What a number is written as in a date bound, without its quotation marks. -/
def writtenDate (x : Double) : Except RenderFault String :=
  match dated? x with
  | some ms => .ok (CivilTime.ofMillis ms).text
  | none => .error (.invalidDate x.text)

theorem ofMillis?_eq (x : Double) : Instant.ofMillis? x = (dated? x).map Instant.ofMillis := by
  unfold Instant.ofMillis? dated?
  cases x.truncate? with
  | none => rfl
  | some ms =>
    rw [Option.filter_some]
    dsimp only
    split <;> rfl

theorem dateText_number (x : Double) : Rule.dateText (some (.number x)) = writtenDate x := by
  rw [Rule.dateText, ofMillis?_eq, writtenDate]
  cases dated? x with
  | none => rfl
  | some ms => exact congrArg Except.ok (CivilTime.isoText_ofMillis ms)

/-- A bound is written as the host would print it, and fails just where the host has no date. -/
def FollowsHost (x : Double) : Prop :=
  match writtenDate x with
  | .ok text => HostDate x text
  | .error _ => ¬∃ text, HostDate x text

/-- The year is written alike: without a sign, or with six digits in any case. -/
def YearAgrees (year : Int) : Prop := (0 ≤ year ∧ year ≤ 9999) ∨ 100000 ≤ year.natAbs

instance (year : Int) : Decidable (YearAgrees year) := by
  unfold YearAgrees
  infer_instance

theorem padded_eq_iff (n : Nat) : Instant.padded 4 n = Instant.padded 6 n ↔ 100000 ≤ n := by
  have digits := Nat.length_toDigits_le_iff (b := 10) (n := n) (k := 5) (by decide) (by decide)
  constructor
  · intro same
    have length := congrArg (fun s => s.toList.length) same
    simp only [Instant.padded, String.toList_ofList, List.length_append, List.length_replicate]
      at length
    omega
  · intro large
    have four : 4 - (Nat.toDigits 10 n).length = 0 := by omega
    have six : 6 - (Nat.toDigits 10 n).length = 0 := by omega
    rw [Instant.padded, Instant.padded, four, six]

theorem yearText_eq_iff (year : Int) : Instant.yearText year = hostYear year ↔ YearAgrees year := by
  unfold Instant.yearText hostYear YearAgrees
  by_cases plain : 0 ≤ year ∧ year ≤ 9999
  · rw [if_pos plain, if_pos plain]
    exact iff_of_true rfl (.inl plain)
  · rw [if_neg plain, if_neg plain, String.append_right_inj, padded_eq_iff]
    exact (or_iff_right plain).symm

theorem text_eq_iff (c : CivilTime) : c.text = c.hostText ↔ YearAgrees c.date.year := by
  rw [← yearText_eq_iff, CivilTime.text, CivilTime.hostText]
  constructor
  · intro same
    have chars := congrArg String.toList same
    rw [String.toList_append, String.toList_append] at chars
    exact String.toList_inj.mp (List.append_cancel_right chars)
  · exact congrArg (· ++ c.afterYear)

/-- The host has one text for a date. -/
theorem hostDate_iff {x : Double} {text : String} {ms : Int} (cut : x.truncate? = some ms) :
    HostDate x text ↔ ms.natAbs ≤ hostLimit ∧ text = (CivilTime.ofMillis ms).hostText := by
  rw [HostDate, Double.isWithinHost_iff cut]
  refine and_congr_right fun _ => ⟨?_, ?_⟩
  · rintro ⟨c, valid, cut', rfl⟩
    rw [cut, Option.some.injEq] at cut'
    rw [cut', CivilTime.ofMillis_millis valid]
  · rintro rfl
    exact ⟨_, CivilTime.valid_ofMillis ms, by rw [CivilTime.millis_ofMillis, cut], rfl⟩

/-- Bounds follow the host but where the calendar ends early or a year takes a sign. -/
theorem followsHost_iff (x : Double) : FollowsHost x ↔
    ∀ ms, x.truncate? = some ms → ms.natAbs ≤ hostLimit →
      Instant.inRange ms = true ∧ YearAgrees (CivilTime.ofMillis ms).date.year := by
  unfold FollowsHost writtenDate dated?
  cases cut : x.truncate? with
  | none =>
    refine iff_of_true ?_ nofun
    rintro ⟨text, -, c, -, cut', -⟩
    rw [cut] at cut'
    cases cut'
  | some ms =>
    have host (text : String) := @hostDate_iff x text ms cut
    have near : Instant.inRange ms = true → ms.natAbs ≤ hostLimit := by
      intro inRange
      simp only [Instant.inRange, Bool.and_eq_true, decide_eq_true_eq] at inRange
      unfold hostLimit
      omega
    rw [Option.filter_some]
    cases range : Instant.inRange ms with
    | true =>
      simp only [↓reduceIte, Option.some.injEq, forall_eq', host, text_eq_iff, near range, range,
        true_and, true_implies]
    | false => simp [host, range]

/-! ## The calls of a date -/

/-- Digits and the marks of a date need no escape. -/
def isDateChar (c : Char) : Bool := c.isDigit || c ∈ ['-', '+', 'T', ':', '.', 'Z']

theorem escapeChar_of_isDateChar {c : Char} (plain : isDateChar c = true) :
    Text.escapeChar c = [c] := by
  rw [isDateChar, Bool.or_eq_true, decide_eq_true_eq] at plain
  rcases plain with digit | mark
  · have range : 48 ≤ c.toNat ∧ c.toNat ≤ 57 := by
      simpa [Char.isDigit, UInt32.le_iff_toNat_le] using digit
    have other (d : Char) (outside : d.toNat < 48 ∨ 57 < d.toNat) : c ≠ d := by
      rintro rfl
      omega
    simp [Text.escapeChar, other '"' (by decide), other '\\' (by decide), other '\x08' (by decide),
      other '\t' (by decide), other '\n' (by decide), other '\x0c' (by decide),
      other '\r' (by decide), show ¬c.toNat < 32 by omega]
  · have each : (['-', '+', 'T', ':', '.', 'Z'].all fun m => Text.escapeChar m == [m]) = true := by
      decide
    exact eq_of_beq (List.all_eq_true.mp each c mark)

theorem quote_of_isDateChar {s : String} (plain : s.toList.all isDateChar = true) :
    Text.quote s = "\"" ++ s ++ "\"" := by
  have escaped : s.toList.flatMap Text.escapeChar = s.toList := by
    have each : s.toList.flatMap Text.escapeChar = s.toList.flatMap fun c => [c] :=
      List.flatMap_congr fun c member =>
        escapeChar_of_isDateChar (List.all_eq_true.mp plain c member)
    rw [each, List.flatMap_singleton']
  apply String.toList_inj.mp
  simp [Text.quote, Text.quoteChars, escaped]

theorem isDateChar_padded (width n : Nat) :
    (Instant.padded width n).toList.all isDateChar = true := by
  rw [Instant.padded, String.toList_ofList, List.all_eq_true]
  intro c member
  rw [isDateChar, Bool.or_eq_true]
  left
  rcases List.mem_append.mp member with zero | digit
  · rw [List.eq_of_mem_replicate zero]
    rfl
  · exact Nat.isDigit_of_mem_toDigits (by decide) (by decide) digit

theorem CivilTime.quote_text (c : CivilTime) : Text.quote c.text = "\"" ++ c.text ++ "\"" := by
  apply quote_of_isDateChar
  have signed : (Instant.yearText c.date.year).toList.all isDateChar = true := by
    unfold Instant.yearText
    split
    · exact isDateChar_padded _ _
    · rw [String.toList_append, List.all_append, isDateChar_padded, Bool.and_true]
      split <;> decide
  have after : c.afterYear.toList.all isDateChar = true := by
    delta afterYear
    simp only [String.toList_append, List.all_append, isDateChar_padded, Bool.and_true]
    decide
  rw [text, String.toList_append, List.all_append, signed, after]
  rfl

/-- What an entry that states a constraint states to a date: a bound with what it holds, or nothing
if the constraint is of another kind. -/
inductive Value.StatesDate (entry : Value) : Option (String × Option Value) → Prop
  | bound {kind : String} {held : Option Value} {allowed : Option Bool}
      (bounds : kind = "min" ∨ kind = "max") (states : entry.States kind held allowed) :
      StatesDate entry (some (kind, held))
  | other {kind : String} {held : Option Value} {allowed : Option Bool}
      (other : ¬(kind = "min" ∨ kind = "max")) (states : entry.States kind held allowed) :
      StatesDate entry none

/-- The bounds that the checks of a definition state to a date, in order. -/
def Fields.StatesDateBounds (definition : Fields) (bounds : List (String × Option Value)) : Prop :=
  ∃ stated, definition.ChecksState Value.StatesDate stated ∧ stated.reduceOption = bounds

namespace Rule

/-- The bound that a constraint is to a date. -/
def dateBound? (check : Check) : Option (String × Option Value) :=
  if check.kind = "min" ∨ check.kind = "max" then some (check.kind, check.resolved) else none

def dateBounds (checks : List Check) : List (String × Option Value) := checks.filterMap dateBound?

theorem statesDate_iff {entry : Value} {bound : Option (String × Option Value)} :
    entry.StatesDate bound ↔ ∃ check, Check.ofEntry? entry = some check ∧
      dateBound? check = bound := by
  constructor
  · intro states
    cases states with
    | bound bounds states =>
      obtain ⟨check, read, rfl, rfl, -⟩ := Value.states_iff.mp states
      exact ⟨check, read, if_pos bounds⟩
    | other other states =>
      obtain ⟨check, read, rfl, -⟩ := Value.states_iff.mp states
      exact ⟨check, read, if_neg other⟩
  · rintro ⟨check, read, rfl⟩
    have states := Value.states_iff.mpr ⟨check, read, rfl, rfl, rfl⟩
    rw [dateBound?]
    split
    · next bounds => exact .bound bounds states
    · next other => exact .other other states

theorem statesDateBounds_iff {definition : Fields} {bounds : List (String × Option Value)} :
    definition.StatesDateBounds bounds ↔ dateBounds definition.checks = bounds := by
  have stated (all : List (Option (String × Option Value))) :
      definition.ChecksState Value.StatesDate all ↔ definition.checks.map dateBound? = all := by
    rw [Fields.checksState_iff (R := Value.StatesDate) statesDate_iff,
      ← List.forall₂_map_left_iff, List.forall₂_eq_eq_eq]
  have bounds : (definition.checks.map dateBound?).reduceOption = dateBounds definition.checks :=
    List.filterMap_map
  simp only [Fields.StatesDateBounds, stated, exists_eq_left', bounds]

/-- The call for a bound. -/
def boundCall (bound : String × Option Value) : Except RenderFault String :=
  (dateText bound.2).map fun text => callText bound.1 ("new Date(" ++ Text.quote text ++ ")")

/-- A date has a call for each of its bounds, up to the first that is no date. -/
theorem dateCalls_eq (checks : List Check) :
    dateCalls checks = (dateBounds checks).mapM boundCall := by
  induction checks with
  | nil => rfl
  | cons check rest ih =>
    rw [dateCalls, dateBounds]
    by_cases bound : check.kind = "min" ∨ check.kind = "max"
    · have here : dateBound? check = some (check.kind, check.resolved) := if_pos bound
      rw [if_pos bound, List.filterMap_cons_some here, List.mapM_cons, boundCall, ih]
      cases dateText check.resolved with
      | error fault => rfl
      | ok text => rfl
    · have none : dateBound? check = none := if_neg bound
      rw [if_neg bound, List.filterMap_cons_none none]
      exact ih

theorem render_date {version : Version} {node : Value}
    (known : version.dialect.kind? node = some .date) (options : Options) :
    (Renderer.ofVersion version).render options node =
      ((dateBounds (Renderer.definitionIn version.dialect node).fields.checks).mapM boundCall).map
        (constructor "date" (Renderer.definitionIn version.dialect node).fields ++
          String.join ·) := by
  obtain ⟨recognized, tagged⟩ := Dialect.of_kind? known
  rw [Renderer.render_eq_textAt, Renderer.textAt_of_kind recognized tagged, ← dateCalls_eq]
  change Rule.date.view _ _ >>= _ = _
  rw [Rule.view, Rule.date]
  cases dateCalls (Renderer.definitionIn version.dialect node).fields.checks with
  | error fault => rfl
  | ok calls => exact congrArg Except.ok String.append_empty

theorem callText_date (method : String) (c : CivilTime) :
    callText method ("new Date(" ++ Text.quote c.text ++ ")") =
      "." ++ method ++ "(new Date(\"" ++ c.text ++ "\"))" := by
  rw [c.quote_text]
  apply String.toList_inj.mp
  simp [callText]

/-- The call for a bound that is a number. -/
def writtenBound (bound : String × Double) : Except RenderFault String :=
  (writtenDate bound.2).map fun text => "." ++ bound.1 ++ "(new Date(\"" ++ text ++ "\"))"

theorem boundCall_number (bound : String × Double) :
    boundCall (bound.1, some (.number bound.2)) = writtenBound bound := by
  rw [boundCall, dateText_number, writtenBound, writtenDate]
  cases dated? bound.2 with
  | none => rfl
  | some ms => exact congrArg Except.ok (callText_date bound.1 (.ofMillis ms))

end Rule

open Rule in
/-- **Where date bounds follow the host.** A date is written with a call for each of its bounds, in
their order, and fails with the first bound that is no date. Each number is written as the host
would print it, and fails just where the host has no date for it, unless it lies beyond the end of
the calendar or falls into a year that takes a sign and fewer than six digits. -/
theorem Renderer.render_date_bounds {version : Version} {node : Value}
    {given : List (String × Double)} (known : version.dialect.kind? node = some .date)
    (numbers : (definitionIn version.dialect node).fields.StatesDateBounds
      (given.map fun bound => (bound.1, some (.number bound.2)))) (options : Options) :
    (ofVersion version).render options node =
        (given.mapM writtenBound).map
          (constructor "date" (definitionIn version.dialect node).fields ++ String.join ·) ∧
      ∀ bound ∈ given, FollowsHost bound.2 ↔
        ∀ ms, bound.2.truncate? = some ms → ms.natAbs ≤ hostLimit →
          Instant.inRange ms = true ∧ YearAgrees (CivilTime.ofMillis ms).date.year := by
  refine ⟨?_, fun bound _ => followsHost_iff bound.2⟩
  rw [render_date known, statesDateBounds_iff.mp numbers, List.mapM_map]
  congr 2
  funext bound
  exact boundCall_number bound

/-- The first millisecond of the year 10000 is written with five digits, where the host has six. -/
theorem Renderer.render_date_bounds_late :
    let x := Double.ofInt 253402300800000
    let given := [("min", x)]
    let node := SchemaSource.node .v4 "Date" "date"
      [("checks", .array [namedEntry "greater_than_or_equal" [("value", .number x)]])]
    (Version.v4.dialect.kind? node = some .date ∧
      (definitionIn Version.v4.dialect node).fields.StatesDateBounds
        (given.map fun bound => (bound.1, some (.number bound.2)))) ∧
    (ofVersion .v4).render {} node =
        .ok "z.date().min(new Date(\"+10000-01-01T00:00:00.000Z\"))" ∧
      ¬FollowsHost x := by
  intro x given node
  have known : Version.v4.dialect.kind? node = some .date := rfl
  have numbers : (definitionIn Version.v4.dialect node).fields.StatesDateBounds
      (given.map fun bound => (bound.1, some (.number bound.2))) :=
    Rule.statesDateBounds_iff.mpr rfl
  obtain ⟨text, follows⟩ := render_date_bounds known numbers {}
  have cut : x.truncate? = some 253402300800000 := by decide +kernel
  have dated : dated? x = some 253402300800000 := by
    rw [dated?, cut]
    rfl
  have written : writtenDate x = .ok "+10000-01-01T00:00:00.000Z" := by
    have text : (CivilTime.ofMillis 253402300800000).text = "+10000-01-01T00:00:00.000Z" := by
      decide +kernel
    rw [writtenDate, dated]
    exact congrArg Except.ok text
  refine ⟨⟨known, numbers⟩, ?_, ?_⟩
  · rw [text, List.mapM_cons, Rule.writtenBound, written]
    rfl
  · rw [follows _ List.mem_cons_self]
    intro agrees
    obtain ⟨-, year⟩ := agrees _ cut (by decide)
    exact absurd year (by decide +kernel)

end SchemaSource
