import SchemaSource.Proofs.DateBounds
import SchemaSource.Proofs.SnapshotForm
/-!
The spellings of a date bound: milliseconds as a number, a date, and the text of a date. For a year
of four digits the three come to one call, a snapshot keeps the date as its text, and later dates
have later texts.
-/
namespace SchemaSource

/-! ## The time of a plain year -/

/-- The first and the last millisecond of the years 0 to 9999. -/
theorem CivilTime.millis_bounds {c : CivilTime} (valid : c.Valid) (plain : c.IsPlainYear) :
    -62167219200000 ≤ c.millis ∧ c.millis < 253402300800000 := by
  obtain ⟨year0, year9999⟩ := plain
  have first : -719528 ≤ CalendarDate.daysBeforeYear c.date.year :=
    CalendarDate.daysBeforeYear_mono year0
  have last : CalendarDate.daysBeforeYear (c.date.year + 1) ≤ 2932897 :=
    CalendarDate.daysBeforeYear_mono (Int.add_le_add_right year9999 1)
  rw [CalendarDate.daysBeforeYear_succ] at last
  have firstDay := valid.date.firstDay
  have lastDay := valid.date.day_le
  have clock := c.ofDay_lt valid
  unfold millis CalendarDate.daysBefore
  omega

/-- Milliseconds that fall into a year of four digits. -/
def InPlainYear (ms : Int) : Prop := (CivilTime.ofMillis ms).IsPlainYear

variable {ms : Int}

theorem InPlainYear.bounds (plain : InPlainYear ms) :
    -62167219200000 ≤ ms ∧ ms < 253402300800000 := by
  have bounds := CivilTime.millis_bounds (CivilTime.valid_ofMillis ms) plain
  rwa [CivilTime.millis_ofMillis] at bounds

theorem InPlainYear.inRange (plain : InPlainYear ms) : Instant.inRange ms = true := by
  have bounds := plain.bounds
  simp only [Instant.inRange, Bool.and_eq_true, decide_eq_true_eq]
  omega

theorem Double.truncate?_of_integer? {x : Double} (integer : x.integer? = some ms) :
    x.truncate? = some ms := by
  cases x with
  | nan => cases integer
  | infinite negative => cases integer
  | finite negative mantissa exponent canonical =>
    rw [integer?] at integer
    split at integer
    · exact integer
    · cases integer

namespace Instant

/-- An instant lies so many milliseconds from the start of 1970. -/
theorem ofMillis_exact (ms : Int) :
    (ofMillis ms).seconds * 1000000000 + (ofMillis ms).nanos = ms * 1000000 := by
  simp only [ofMillis]
  omega

theorem ofMillis?_of_integer? (plain : InPlainYear ms) {x : Double}
    (integer : x.integer? = some ms) :
    ofMillis? x = some (ofMillis ms) := by
  rw [ofMillis?, Double.truncate?_of_integer? integer]
  exact if_pos plain.inRange

/-- The text of an instant is read back as the instant. -/
theorem ofText_isoText (plain : InPlainYear ms) :
    ofText (ofMillis ms).isoText = .ok (ofMillis ms) := by
  rw [CivilTime.isoText_ofMillis, CivilTime.ofText_text (CivilTime.valid_ofMillis ms) plain,
    CivilTime.millis_ofMillis]

/-- Texts are in the order of their instants. -/
theorem isoText_lt_iff {ms' : Int} (plain : InPlainYear ms) (plain' : InPlainYear ms') :
    (ofMillis ms).isoText < (ofMillis ms').isoText ↔ ms < ms' := by
  rw [CivilTime.isoText_ofMillis, CivilTime.isoText_ofMillis]
  have here := CivilTime.valid_ofMillis ms
  have there := CivilTime.valid_ofMillis ms'
  have later := CivilTime.millis_lt here there
  have earlier := CivilTime.millis_lt there here
  rw [CivilTime.millis_ofMillis, CivilTime.millis_ofMillis] at later earlier
  rcases CivilTime.before_or_eq (.ofMillis ms) (.ofMillis ms') with before | same | after
  · exact iff_of_true (CivilTime.text_lt here there plain plain' before) (later before)
  · have equal : ms = ms' := by
      rw [← CivilTime.millis_ofMillis ms, same, CivilTime.millis_ofMillis]
    rw [equal]
    exact iff_of_false (String.lt_irrefl _) (Int.lt_irrefl _)
  · have text := CivilTime.text_lt there here plain' plain after
    exact iff_of_false (String.lt_asymm text) (Int.lt_asymm (earlier after))

theorem isoText_inj {ms' : Int} (plain : InPlainYear ms) (plain' : InPlainYear ms')
    (same : (ofMillis ms).isoText = (ofMillis ms').isoText) : ms = ms' := by
  have less := isoText_lt_iff plain plain'
  have more := isoText_lt_iff plain' plain
  rw [same] at less more
  have not := String.lt_irrefl (ofMillis ms').isoText
  rw [iff_false_left not] at less more
  omega

end Instant

theorem Snapshot.decode_date (plain : InPlainYear ms) :
    decode (.object [("$date", .string (Instant.ofMillis ms).isoText)]) =
      .ok (.date (.ofMillis ms)) := by
  have decoded := decode_marked .date (.string (Instant.ofMillis ms).isoText)
  dsimp only [decodeDate] at decoded
  rw [Instant.ofText_isoText plain] at decoded
  exact decoded

/-! ## Spellings of a bound -/

/-- A value that stands for so many milliseconds in a bound. -/
inductive SpellsDate (ms : Int) : Value → Prop
  | number {x : Double} (integer : x.integer? = some ms) : SpellsDate ms (.number x)
  | date : SpellsDate ms (.date (.ofMillis ms))
  | text : SpellsDate ms (.string (Instant.ofMillis ms).isoText)

/-- Two bounds that are equal, or spell one date of a plain year. -/
inductive Respelled : String × Option Value → String × Option Value → Prop
  | same (bound : String × Option Value) : Respelled bound bound
  | spelled {method : String} {ms : Int} {value value' : Value} (plain : InPlainYear ms)
      (spells : SpellsDate ms value) (spells' : SpellsDate ms value') :
      Respelled (method, some value) (method, some value')

namespace Rule

theorem dateText_spelled (plain : InPlainYear ms) {value : Value} (spells : SpellsDate ms value) :
    dateText (some value) = .ok (Instant.ofMillis ms).isoText := by
  cases spells with
  | number integer => rw [dateText, Instant.ofMillis?_of_integer? plain integer]
  | date => rfl
  | text => rw [dateText, Instant.ofText_isoText plain]

theorem boundCall_spelled (plain : InPlainYear ms) (method : String) {value : Value}
    (spells : SpellsDate ms value) : boundCall (method, some value) =
      .ok ("." ++ method ++ "(new Date(\"" ++ (Instant.ofMillis ms).isoText ++ "\"))") := by
  rw [boundCall, dateText_spelled plain spells, CivilTime.isoText_ofMillis]
  exact congrArg Except.ok (callText_date method (.ofMillis ms))

theorem boundCall_respelled {bound bound' : String × Option Value}
    (respelled : Respelled bound bound') : boundCall bound = boundCall bound' := by
  cases respelled with
  | same => rfl
  | spelled plain spells spells' =>
    rw [boundCall_spelled plain _ spells, boundCall_spelled plain _ spells']

theorem boundCalls_respelled {bounds bounds' : List (String × Option Value)}
    (respelled : List.Forall₂ Respelled bounds bounds') :
    bounds.mapM boundCall = bounds'.mapM boundCall := by
  induction respelled with
  | nil => rfl
  | cons first _ ih => rw [List.mapM_cons, List.mapM_cons, boundCall_respelled first, ih]

end Rule

namespace Renderer

open Rule

/-- A date is rendered the same from any spelling of its bounds, by either version. -/
theorem render_respelled {version version' : Version} {node node' : Value}
    (known : version.dialect.kind? node = some .date)
    (known' : version'.dialect.kind? node' = some .date)
    (alike : constructor "date" (definitionIn version.dialect node).fields =
      constructor "date" (definitionIn version'.dialect node').fields)
    {bounds bounds' : List (String × Option Value)}
    (states : (definitionIn version.dialect node).fields.StatesDateBounds bounds)
    (states' : (definitionIn version'.dialect node').fields.StatesDateBounds bounds')
    (respelled : List.Forall₂ Respelled bounds bounds') (options : Options) :
    (ofVersion version).render options node = (ofVersion version').render options node' := by
  rw [render_date known, render_date known', statesDateBounds_iff.mp states,
    statesDateBounds_iff.mp states', boundCalls_respelled respelled, alike]

/-- A spelled bound never fails, and its date stands between the calls for the other bounds. -/
theorem render_spelled (plain : InPlainYear ms) {version : Version} {node : Value}
    (known : version.dialect.kind? node = some .date) {before after : List (String × Option Value)}
    {method : String} {value : Value} (spells : SpellsDate ms value)
    (states : (definitionIn version.dialect node).fields.StatesDateBounds
      (before ++ (method, some value) :: after)) (options : Options) :
    (ofVersion version).render options node = do
      let earlier ← before.mapM boundCall
      let later ← after.mapM boundCall
      return constructor "date" (definitionIn version.dialect node).fields ++ String.join earlier ++
        ("." ++ method ++ "(new Date(\"" ++ (Instant.ofMillis ms).isoText ++ "\"))") ++
        String.join later := by
  rw [render_date known, statesDateBounds_iff.mp states, List.mapM_append, List.mapM_cons,
    boundCall_spelled plain method spells]
  cases before.mapM boundCall with
  | error fault => rfl
  | ok earlier =>
    cases after.mapM boundCall with
    | error fault => rfl
    | ok later =>
      refine congrArg Except.ok ?_
      simp only [String.join_append, String.join_cons, String.append_assoc]

/-- **The spellings of a date bound agree.** Milliseconds in a year of four digits have a date that
lies so far from the start of 1970, and a snapshot keeps it as its text. A date schema is written
the same whichever of the three its bounds are, and the text of the date stands in it. Later dates
have later texts, and no two dates share one. -/
theorem render_date_spelled {ms : Int} (plain : InPlainYear ms) :
    let date := Instant.ofMillis ms
    ((Double.ofInt ms).integer? = some ms ∧
      ∀ x : Double, x.integer? = some ms → Instant.ofMillis? x = some date) ∧
    date.seconds * 1000000000 + date.nanos = ms * 1000000 ∧
    Snapshot.decode (.object [("$date", .string date.isoText)]) = .ok (.date date) ∧
    (∀ (version : Version) (node : Value), version.dialect.kind? node = some .date →
      (∀ (version' : Version) (node' : Value), version'.dialect.kind? node' = some .date →
        constructor "date" (definitionIn version.dialect node).fields =
          constructor "date" (definitionIn version'.dialect node').fields →
        ∀ bounds bounds' : List (String × Option Value),
          (definitionIn version.dialect node).fields.StatesDateBounds bounds →
          (definitionIn version'.dialect node').fields.StatesDateBounds bounds' →
          List.Forall₂ Respelled bounds bounds' → ∀ options : Options,
            (ofVersion version).render options node = (ofVersion version').render options node') ∧
      ∀ (before after : List (String × Option Value)) (method : String) (value : Value),
        SpellsDate ms value →
        (definitionIn version.dialect node).fields.StatesDateBounds
          (before ++ (method, some value) :: after) →
        ∀ options : Options, (ofVersion version).render options node = do
          let earlier ← before.mapM boundCall
          let later ← after.mapM boundCall
          return constructor "date" (definitionIn version.dialect node).fields ++
            String.join earlier ++
            ("." ++ method ++ "(new Date(\"" ++ date.isoText ++ "\"))") ++ String.join later) ∧
    ∀ ms' : Int, InPlainYear ms' →
      (date.isoText < (Instant.ofMillis ms').isoText ↔ ms < ms') ∧
      (date.isoText = (Instant.ofMillis ms').isoText → ms = ms') := by
  have small : ms.natAbs < 2 ^ 53 := by
    have bounds := plain.bounds
    omega
  refine ⟨⟨Double.integer?_ofInt small, fun _ => Instant.ofMillis?_of_integer? plain⟩,
    Instant.ofMillis_exact ms, Snapshot.decode_date plain, ?_, ?_⟩
  · intro version node known
    refine ⟨fun version' node' known' alike _ _ => render_respelled known known' alike, ?_⟩
    intro before after method value spells
    exact render_spelled plain known spells
  · intro ms' plain'
    exact ⟨Instant.isoText_lt_iff plain plain', Instant.isoText_inj plain plain'⟩

/-- The last millisecond of a leap day, by each of its spellings, beside a bound of the next day. -/
theorem render_date_spelled_leap_day :
    let text := "2000-02-29T23:59:59.999Z"
    let next := "2000-03-01T00:00:00.000Z"
    let node (value : Value) := SchemaSource.node .v4 "Date" "date"
      [("checks", .array [namedEntry "greater_than_or_equal" [("value", value)],
        namedEntry "less_than_or_equal" [("value", .string next)]])]
    (InPlainYear 951868799999 ∧ InPlainYear 951868800000) ∧
    Snapshot.decode (.object [("$date", .string text)]) =
      .ok (.date (.ofMillis 951868799999)) ∧
    (∀ value ∈ [.number (.ofInt 951868799999), .date (.ofMillis 951868799999), .string text],
      (ofVersion .v4).render {} (node value) =
        .ok ("z.date().min(new Date(\"2000-02-29T23:59:59.999Z\"))" ++
          ".max(new Date(\"2000-03-01T00:00:00.000Z\"))")) ∧
    text < next := by
  intro text next node
  have plain : InPlainYear 951868799999 := by
    unfold InPlainYear CivilTime.IsPlainYear
    decide +kernel
  have plain' : InPlainYear 951868800000 := by
    unfold InPlainYear CivilTime.IsPlainYear
    decide +kernel
  have textOf : (Instant.ofMillis 951868799999).isoText = text := by decide +kernel
  have nextOf : (Instant.ofMillis 951868800000).isoText = next := by decide +kernel
  have written : boundCall ("max", some (.string next)) =
      .ok (".max(new Date(\"" ++ next ++ "\"))") := by
    rw [← nextOf]
    exact boundCall_spelled plain' "max" .text
  obtain ⟨⟨integer, -⟩, -, decoded, rendered, ordered⟩ := render_date_spelled plain
  rw [textOf] at decoded ordered
  refine ⟨⟨plain, plain'⟩, decoded, ?_, ?_⟩
  · intro value member
    have spells : SpellsDate 951868799999 value := by
      rcases List.mem_cons.mp member with rfl | member
      · exact .number integer
      · rcases List.mem_cons.mp member with rfl | member
        · exact .date
        · rw [List.mem_singleton.mp member, ← textOf]
          exact .text
    have bounds : (definitionIn Version.v4.dialect (node value)).fields.StatesDateBounds
        [("min", some value), ("max", some (.string next))] := by
      cases spells with
      | number => exact statesDateBounds_iff.mpr rfl
      | date => exact statesDateBounds_iff.mpr rfl
      | text => exact statesDateBounds_iff.mpr rfl
    have text := (rendered .v4 (node value) rfl).2 [] [("max", some (.string next))] "min" value
      spells bounds {}
    rw [List.mapM_cons, written, textOf] at text
    exact text
  · have less := (ordered 951868800000 plain').1.mpr (by decide)
    rwa [nextOf] at less

end Renderer

end SchemaSource
