import SchemaSource.Proofs.Agreement
import SchemaSource.Proofs.CallText
import SchemaSource.Proofs.InlinedValues
import SchemaSource.Proofs.LegalNumerals
/-!
Integers in source text and in JSON. Source text spells every integer below `10 ^ 21` in plain
digits; JSON does so only below `2 ^ 53` and marks what is larger by a point or an exponent. So
schemas that hold the same integer in different places spell it in two ways from there on.
-/
namespace SchemaSource

namespace Double

/-! ## The digits of large integers -/

namespace Neighbourhood

theorem exponent_of_onGrid? {n : Neighbourhood} {tie : Tie} {exponent : Int} {d : Decimal}
    (offered : n.onGrid? tie exponent = some d) : d.exponent = exponent := by
  simp only [onGrid?] at offered
  split at offered
  · obtain ⟨rfl | rfl, -⟩ := Tight.chosen offered <;> rfl
  · obtain ⟨rfl | rfl, -⟩ := Tight.chosen offered <;> rfl

end Neighbourhood

section Whole

variable {mantissa : Nat} {exponent : Int} (nonzero : mantissa ≠ 0) (whole : 0 ≤ exponent)
include nonzero whole

theorem decade_nonneg : 0 ≤ (neighbourhood mantissa exponent).decade := by
  have unit : (-exponent).toNat = 0 := by omega
  have denominator : (neighbourhood mantissa exponent).denominator = 4 := by
    simp [neighbourhood, unit]
  have scale : 0 < 2 ^ exponent.toNat := Nat.pow_pos (by decide)
  have reaches : 4 ≤ (neighbourhood mantissa exponent).value := by
    have positive := Nat.mul_pos (Nat.pos_of_ne_zero nonzero) scale
    simp only [neighbourhood, Nat.mul_assoc]
    omega
  have four : digitCount 4 = 1 := rfl
  have longer := digitCount_pos (neighbourhood mantissa exponent).value
  unfold Neighbourhood.decade
  rw [denominator, four]
  by_cases single : digitCount (neighbourhood mantissa exponent).value = 1
  · simp [single, reaches]
  · simp only
    split <;> omega

/-- Of the grid of integers the nearer point beside a number without a fraction is the number. -/
theorem exists_onGrid?_zero (tie : Tie) :
    ∃ d, (neighbourhood mantissa exponent).onGrid? tie 0 = some d := by
  have positive := denominator_pos mantissa exponent
  refine Neighbourhood.onGrid?_of_near positive tie 0 fun d grid near => ?_
  have power : (2 : ℚ) ^ exponent = (2 ^ exponent.toNat : Nat) := by
    rw [Nat.cast_pow, Nat.cast_ofNat, ← zpow_natCast, Int.toNat_of_nonneg whole]
  have unit : (2 : ℚ) ^ exponent ≠ 0 := (zpow_pos (by norm_num) exponent).ne'
  have value : d.value = d.digits := by rw [Decimal.value, grid, zpow_zero, mul_one]
  rw [Neighbourhood.IsNear, value_div, value, grid, zpow_zero, power, ← Nat.cast_mul] at near
  have same : d.digits = mantissa * 2 ^ exponent.toNat := by
    rw [abs_le] at near
    have below : d.digits < mantissa * 2 ^ exponent.toNat + 1 := by
      have : (d.digits : ℚ) < (mantissa * 2 ^ exponent.toNat : Nat) + 1 := by linarith [near.2]
      exact_mod_cast this
    have above : mantissa * 2 ^ exponent.toNat < d.digits + 1 := by
      have : ((mantissa * 2 ^ exponent.toNat : Nat) : ℚ) < d.digits + 1 := by linarith [near.1]
      exact_mod_cast this
    omega
  rw [Neighbourhood.contains_iff_holds positive]
  refine holds_center nonzero ?_
  rw [value, same, Nat.cast_mul, ← power, mul_div_cancel_right₀ _ unit]

/-- The shortest digits of a number without a fraction have none either. -/
theorem shortest_whole (short : mantissa < 2 ^ 53) (tie : Tie) :
    ∃ digits x : Nat, 0 < digits ∧ shortest mantissa exponent tie = ⟨digits, x⟩ := by
  have nonneg := decade_nonneg nonzero whole
  -- The search reaches the grid of integers, or it ends before.
  obtain ⟨k, inside, least, d, offered⟩ : ∃ k : Nat, k < 17 ∧
      (k : Int) ≤ (neighbourhood mantissa exponent).decade ∧
      ∃ d, (neighbourhood mantissa exponent).onGrid? tie
        ((neighbourhood mantissa exponent).decade - k) = some d := by
    rcases Int.lt_or_le 16 (neighbourhood mantissa exponent).decade with large | small
    · refine ⟨16, by decide, by omega, ?_⟩
      exact Neighbourhood.onGrid?_of_near (denominator_pos mantissa exponent) tie _
        fun d finest near =>
          (Neighbourhood.contains_iff_holds (denominator_pos mantissa exponent) d).mpr
            (holds_of_near exponent nonzero short finest near)
    · refine ⟨(neighbourhood mantissa exponent).decade.toNat, by omega, by omega, ?_⟩
      rw [Int.toNat_of_nonneg nonneg, Int.sub_self]
      exact exists_onGrid?_zero nonzero whole tie
  obtain ⟨j, found, before, offered, search⟩ := Neighbourhood.shortest_of_offer inside offered
  have grid : found.exponent =
      (((neighbourhood mantissa exponent).decade - j).toNat : Int) := by
    rw [Neighbourhood.exponent_of_onGrid? offered]
    omega
  have trimmed : shortest mantissa exponent tie = found.trim := by
    rw [shortest, if_neg nonzero, search]
  have positive : 0 < found.digits := by
    have some := digits_shortest_pos exponent nonzero short tie
    rw [trimmed] at some
    apply Nat.pos_of_ne_zero
    intro none
    rw [Decimal.trim, dif_neg (by simp [none]), none] at some
    exact Nat.lt_irrefl 0 some
  obtain ⟨digits, x, some, -, same⟩ := Decimal.trim_integer found.digits
    ((neighbourhood mantissa exponent).decade - j).toNat positive
  refine ⟨digits, x, some, ?_⟩
  rw [trimmed, ← same, ← grid]

end Whole

/-- The digits of a number below `10 ^ 21` stay below it, since it is a number itself. -/
theorem value_shortest_lt {mantissa : Nat} {exponent : Int} (canonical : Canonical mantissa exponent)
    (large : 0 < exponent) (bounded : mantissa * 2 ^ exponent.toNat < 10 ^ 21) {tie : Tie}
    {digits x : Nat} (found : shortest mantissa exponent tie = ⟨digits, x⟩) :
    digits * 10 ^ x < 10 ^ 21 := by
  obtain ⟨short, -, -, long⟩ := canonical
  have long : 2 ^ 52 ≤ mantissa := by omega
  have nonzero : mantissa ≠ 0 := by omega
  have twice : 2 * (digits * 10 ^ x) ≤ (2 * mantissa + 1) * 2 ^ exponent.toNat := by
    have most := (bounds_of_holds nonzero (shortest_holds exponent nonzero short tie)).2
    have unit : (0 : ℚ) < 2 ^ exponent := zpow_pos (by norm_num) exponent
    have power : (2 : ℚ) ^ exponent = 2 ^ exponent.toNat := by
      rw [← zpow_natCast, Int.toNat_of_nonneg large.le]
    rw [found, Decimal.value, zpow_natCast, div_le_iff₀ unit, power] at most
    have doubled : 2 * (digits * 10 ^ x : ℚ) ≤ (2 * mantissa + 1) * 2 ^ exponent.toNat := by
      linarith
    exact_mod_cast doubled
  generalize digits * 10 ^ x = value at twice ⊢
  generalize exponent.toNat = places at bounded twice
  rcases Nat.lt_trichotomy places 17 with less | rfl | more
  · have power : 2 ^ places ≤ 2 ^ 16 := Nat.pow_le_pow_right (by decide) (by omega)
    have := Nat.mul_le_mul (show 2 * mantissa + 1 ≤ 2 ^ 54 by omega) power
    omega
  · omega
  · have power : 2 ^ 18 ≤ 2 ^ places := Nat.pow_le_pow_right (by decide) more
    have := Nat.mul_le_mul long power
    omega

/-! ## Integers in source text -/

theorem isZero_of_integer? {x : Double} (integer : x.integer? = some 0) : x.isZero = true := by
  cases x with
  | nan => cases integer
  | infinite negative => cases integer
  | finite negative mantissa exponent canonical =>
    obtain ⟨N, value, sign⟩ := integer?_eq_some integer
    have none : N = 0 := by
      cases negative <;> simpa using sign.symm
    rw [none, Nat.zero_mul] at value
    have scale := Nat.two_pow_pos exponent.toNat
    simpa [isZero] using (Nat.mul_eq_zero.mp value.symm).resolve_right scale.ne'

/-- An integer that a number holds reads back as that number. -/
theorem equal_ofInt {x : Double} {k : Int} (integer : x.integer? = some k) :
    (ofInt k).equal x = true := by
  by_cases zero : k = 0
  · obtain rfl := zero
    have plain : (ofInt 0).isNaN = false ∧ (ofInt 0).isZero = true := ⟨rfl, rfl⟩
    simp [equal, plain, isZero_of_integer? integer]
  · rw [← Script.ofInt_of_integer? integer zero]
    cases x with
    | nan => cases integer
    | infinite negative => cases integer
    | finite negative mantissa exponent canonical => simp [equal, isNaN]

/-- A number of at least `2 ^ 53` is written by the digits of an integer, which reads back as the
number though it may not be the one that the number holds. -/
theorem text_of_large (negative : Bool) {mantissa : Nat} {exponent : Int}
    (canonical : Canonical mantissa exponent) (large : 0 < exponent)
    (bounded : mantissa * 2 ^ exponent.toNat < 10 ^ 21) :
    ∃ n : Int, (finite negative mantissa exponent canonical).text = toString n ∧
      ofInt n = finite negative mantissa exponent canonical := by
  obtain ⟨short, -, -, long⟩ := id canonical
  have nonzero : mantissa ≠ 0 := by omega
  obtain ⟨digits, x, some, found⟩ :=
    shortest_whole nonzero large.le short Spelling.source.tie
  have less := value_shortest_lt canonical large bounded found
  have positive : 0 < digits * 10 ^ x := Nat.mul_pos some (Nat.pow_pos (by decide))
  have holds := shortest_holds exponent nonzero short Spelling.source.tie
  rw [found, Decimal.value, zpow_natCast] at holds
  refine ⟨signed negative (digits * 10 ^ x), ?_, ?_⟩
  · rw [text, if_neg nonzero, found, write_integer digits x some less,
      toString_signed negative positive]
  · exact ofInt_of_holds canonical nonzero negative positive (by exact_mod_cast holds)

/-- **Integers are spelled in plain digits.** A double that holds an integer below `10 ^ 21` has for
its text the decimal of an integer, which reads back as the number. -/
theorem exists_text_eq_toString {x : Double} {k : Int} (integer : x.integer? = some k)
    (bounded : k.natAbs < 10 ^ 21) :
    ∃ n : Int, x.text = toString n ∧ (ofInt n).equal x = true := by
  by_cases small : k.natAbs ≤ 2 ^ 53
  · exact ⟨k, text_eq_toString integer small, equal_ofInt integer⟩
  cases x with
  | nan => cases integer
  | infinite negative => cases integer
  | finite negative mantissa exponent canonical =>
    obtain ⟨N, value, same⟩ := integer?_eq_some integer
    have size : k.natAbs = N := by
      rw [same]
      cases negative <;> simp
    have large : 0 < exponent := by
      apply Int.lt_of_not_ge
      intro least
      have scale : exponent.toNat = 0 := by omega
      have room : 0 < 2 ^ (-exponent).toNat := Nat.pow_pos (by decide)
      have less := Nat.le_mul_of_pos_right N room
      have short := canonical.1
      rw [value, scale, Nat.pow_zero, Nat.mul_one] at less
      omega
    have unit : (-exponent).toNat = 0 := by omega
    rw [unit, Nat.pow_zero, Nat.mul_one] at value
    obtain ⟨n, written, read⟩ := text_of_large negative canonical large (by omega)
    refine ⟨n, written, ?_⟩
    simp [read, equal, isNaN]

end Double

/-! ## Integers in JSON -/

namespace Json

/-- A point or an exponent tells a text from that of an integer. -/
def IsMarked (text : String) : Prop := '.' ∈ text.toList ∨ 'e' ∈ text.toList

theorem not_isMarked_toString (n : Int) : ¬IsMarked (toString n) := by
  rintro (point | power)
  · exact absurd (digit_of_mem_toString_int point) (by decide)
  · exact absurd (digit_of_mem_toString_int power) (by decide)

theorem IsMarked.append_left {text : String} (marked : IsMarked text) (before : String) :
    IsMarked (before ++ text) := by
  rw [IsMarked, String.toList_append]
  exact marked.imp (List.mem_append_right _) (List.mem_append_right _)

theorem isMarked_positional (d : Double.Decimal) : IsMarked (Double.positional true d) := by
  left
  unfold Double.positional
  simp only
  split
  · simp
  · split <;> simp

theorem isMarked_scientific (d : Double.Decimal) : IsMarked (Double.scientific d) := by
  refine .append_left ?_ _
  right
  unfold Double.exponentText
  split <;> simp

/-- A number that JSON does not write as an integer has a mark. -/
theorem isMarked_doubleText {x : Double} (finite : x.isFinite = true) :
    IsMarked (doubleText x) := by
  cases x with
  | nan => cases finite
  | infinite negative => cases finite
  | finite negative mantissa exponent canonical =>
    refine .append_left ?_ _
    split
    next => exact .inl (by decide)
    next =>
      unfold Double.Spelling.write
      dsimp only
      split
      · exact isMarked_positional _
      · exact isMarked_scientific _

/-- **JSON spells small integers as source text does.** A larger integer has a mark in JSON, while
its source text has none. -/
theorem text_ofDouble_eq_text_iff {x : Double} {k : Int} (integer : x.integer? = some k)
    (bounded : k.natAbs < 10 ^ 21) : (ofDouble x).text = x.text ↔ k.natAbs < 2 ^ 53 := by
  rw [Script.text_ofDouble_of_integer integer]
  constructor
  · intro same
    apply Decidable.byContradiction
    intro large
    obtain ⟨n, text, -⟩ := Double.exists_text_eq_toString integer bounded
    rw [if_neg large, text] at same
    have marked := isMarked_doubleText (Double.isFinite_of_integer? integer)
    exact not_isMarked_toString n (same ▸ marked)
  · exact fun small => if_pos small

end Json

/-! ## Places -/

open Rule

/-- A node that a rule leaves no holes of. -/
theorem Renderer.render_of_view {version : Version} {node : Value} {kind : Kind}
    (knows : version.dialect.Knows kind node) {options : Options} {text : String}
    (written : kind.viewOf version.dialect options.optimizations node = .ok (.text text)) :
    (ofVersion version).render options node = .ok text := by
  rw [render_eq_textAt, textAt_of_kind knows.recognized knows.tag]
  rw [Kind.viewOf] at written
  rw [written]
  exact congrArg Except.ok String.append_empty

/-- The places in which a schema can hold a number, with those of source text before those of
JSON. -/
inductive NumberPlace where
  | literal
  | length
  | bound
  | default
  | recovery
  | member
  | table

namespace NumberPlace

/-- A schema that holds a number in a place. -/
def node (layout : Version) (x : Double) : NumberPlace → Value
  | .literal => (Schema.literal (.number x)).encode (.all layout)
  | .length => (Schema.string false [.size ⟨.least, x⟩]).encode (.all layout)
  | .bound => (Schema.number false [.least true x]).encode (.all layout)
  | .default => (Schema.default (.number x) (.bare .any)).encode (.all layout)
  | .recovery =>
    (Schema.recovery ⟨.throws "no input", .returns (.number x)⟩ (.bare .any)).encode (.all layout)
  | .member =>
    match layout with
    | .v3 => classNode "Enum" [("values", .array [.number x])]
    | .v4 => kindNode "enum" [("entries", .object [("A", .number x)])]
  | .table =>
    SchemaSource.node layout "NativeEnum" "nativeenum" [("values", .object [("A", .number x)])]

/-- The text before the number. -/
def before : NumberPlace → String
  | .literal => "z.literal("
  | .length => "z.string().min("
  | .bound => "z.number().min("
  | .default => "z.any().default("
  | .recovery => "z.any().catch("
  | .member => "z.enum(["
  | .table => "z.nativeEnum(/* native enum */\x7b\"A\":"

/-- The text after the number. -/
def after : NumberPlace → String
  | .member => "])"
  | .table => "\x7d)"
  | _ => ")"

/-- The number as it is spelled in a place. -/
def spelled (x : Double) : NumberPlace → String
  | .literal | .length | .bound => x.text
  | .default | .recovery | .member | .table => (Json.ofDouble x).text

/-- A call after what it is made on. -/
theorem append_call (start method argument : String) :
    start ++ (method ++ argument ++ ")") = start ++ method ++ argument ++ ")" := by
  simp only [String.append_assoc]

theorem view_member {reading : Reading} {whole : Value} {definition : Members whole} {x : Double}
    (given : enumMembers definition.fields = [.number x]) :
    Kind.enumeration.rule.view reading definition =
      .ok (.text ("z.enum([" ++ (Json.ofDouble x).text ++ "])")) := by
  rw [Kind.rule, Rule.view, Rule.enumeration, given]
  exact congrArg (fun text => Except.ok (Template.text ("z.enum([" ++ text ++ "])")))
    String.intercalate_singleton

theorem view_table {reading : Reading} {whole : Value} {definition : Members whole} {x : Double}
    (field : definition.fields.get? "values" = some (.object [("A", .number x)])) :
    Kind.nativeEnum.rule.view reading definition =
      .ok (.text
        ("z.nativeEnum(/* native enum */\x7b\"A\":" ++ (Json.ofDouble x).text ++ "\x7d)")) := by
  have table : enumTable definition.fields = "\x7b" ++ ",".intercalate
      [Text.quote "A" ++ ":" ++ (Json.ofDouble x).text] ++ "\x7d" := by
    rw [enumTable, field]
    rfl
  have name : Text.quote "A" = "\"A\"" := by decide
  rw [Kind.rule, Rule.view, Rule.nativeEnum, table, String.intercalate_singleton, name]
  refine congrArg (fun text => Except.ok (Template.text text)) ?_
  rw [← String.toList_inj]
  simp

theorem render_wrapped {version layout : Version} (reads : version.dialect.Reads layout)
    {wrapper : Schema} {call : String} (fits : wrapper.HasLayout layout) {options : Options}
    (written : wrapper.template options.optimizations =
      .ok [.hole (.bare .any, 0), .text call]) :
    (Renderer.ofVersion version).render options (wrapper.encode (.all layout)) =
      .ok ("z.any()" ++ call) := by
  have any : (Schema.bare .any).HasLayout layout := trivial
  have inner : (Renderer.ofVersion version).render options
      ((Schema.bare .any).encode (.all layout)) = .ok "z.any()" :=
    Schema.textAt_leaf reads any rfl
  rw [Renderer.render_eq_textAt] at inner
  have readsAll : ∀ path, version.dialect.Reads (Layouts.all layout path) := fun _ => reads
  rw [Renderer.render_eq_textAt, Schema.textAt_encode readsAll fits, written]
  have child : Child.encode (.all layout) (.bare .any, 0) =
      (Schema.bare .any).encode (.all layout) := rfl
  change Template.print options options.indentLevel _ _ = _
  rw [Template.print, child, inner]
  exact congrArg (fun text => Except.ok ("z.any()" ++ text)) String.append_empty

theorem render_node {version layout : Version} (reads : version.dialect.Reads layout) (x : Double)
    (place : NumberPlace) {options : Options} (plain : options.optimizations = .none) :
    (Renderer.ofVersion version).render options (place.node layout x) =
      .ok (place.before ++ place.spelled x ++ place.after) := by
  cases place with
  | literal =>
    have fits : (Schema.literal (.number x)).HasLayout layout := trivial
    exact Schema.textAt_leaf reads fits rfl
  | length =>
    have fits : (Schema.string false [.size ⟨.least, x⟩]).HasLayout layout := trivial
    have text : "z.string()" ++ callText "min" x.text = "z.string().min(" ++ x.text ++ ")" :=
      append_call "z.string()" ".min(" x.text
    exact Schema.textAt_leaf reads fits (text ▸ rfl)
  | bound =>
    have fits : (Schema.number false [.least true x]).HasLayout layout := trivial
    have text : "z.number()" ++ callText "min" x.text = "z.number().min(" ++ x.text ++ ")" :=
      append_call "z.number()" ".min(" x.text
    refine Schema.textAt_leaf reads fits ?_
    rw [plain]
    exact text ▸ rfl
  | default =>
    have fits : (Schema.default (.number x) (.bare .any)).HasLayout layout := trivial
    exact (render_wrapped reads fits rfl).trans (congrArg Except.ok (append_call _ ".default(" _))
  | recovery =>
    have fits : (Schema.recovery ⟨.throws "no input", .returns (.number x)⟩
        (.bare .any)).HasLayout layout := trivial
    exact (render_wrapped reads fits rfl).trans (congrArg Except.ok (append_call _ ".catch(" _))
  | member =>
    have read : version.dialect.Knows .enumeration (node layout x .member) ∧
        enumMembers (Renderer.definitionIn version.dialect (node layout x .member)).fields =
          [.number x] := by
      generalize version.dialect = dialect at reads
      cases reads with
      | classes version =>
        exact ⟨knows_classNode version rfl rfl _, enumMembers_of_values (field_of_class rfl rfl)⟩
      | kinds =>
        exact ⟨knows_kindNode .enumeration _, rfl⟩
    exact Renderer.render_of_view read.1 (view_member read.2)
  | table =>
    have knows : version.dialect.Knows .nativeEnum (node layout x .table) := by
      generalize version.dialect = dialect at reads
      cases reads with
      | classes version => exact knows_classNode version rfl rfl _
      | kinds => exact knows_kindNode .nativeEnum _
    exact Renderer.render_of_view knows (view_table (reads.field rfl rfl))

/-- All places have one spelling of a number. -/
def SpellAlike (x : Double) : Prop :=
  ∃ text : String, ∀ (place : NumberPlace) (version layout : Version) (options : Options),
    version.dialect.Reads layout → options.optimizations = .none →
      (Renderer.ofVersion version).render options (place.node layout x) =
        .ok (place.before ++ text ++ place.after)

theorem spellAlike_iff (x : Double) : SpellAlike x ↔ (Json.ofDouble x).text = x.text := by
  constructor
  · rintro ⟨text, alike⟩
    have same (place : NumberPlace) : text = place.spelled x := by
      have reads : Version.v4.dialect.Reads .v4 := .kinds
      have here := (alike place .v4 .v4 ⟨"", 0, false, .none⟩ reads rfl).symm.trans
        (render_node reads x place rfl)
      have letters := congrArg String.toList (Except.ok.inj here)
      simp only [String.toList_append] at letters
      exact String.toList_inj.mp
        (List.append_cancel_left (List.append_cancel_right letters))
    exact (same .default).symm.trans (same .literal)
  · intro same
    refine ⟨x.text, fun place version layout options reads plain => ?_⟩
    have spelled : place.spelled x = x.text := by cases place <;> first | rfl | exact same
    rw [render_node reads x place plain, spelled]

/-- **Integers are spelled alike below `2 ^ 53` only.** Source text spells every integer below
`10 ^ 21` in plain digits. The JSON text of such a number is the same, and with it the spelling of
all places in a schema, just if the integer is below `2 ^ 53`. -/
theorem spelled_integer {x : Double} {k : Int} (integer : x.integer? = some k)
    (bounded : k.natAbs < 10 ^ 21) :
    (∃ n : Int, x.text = toString n ∧ (Double.ofInt n).equal x = true) ∧
      ((Json.ofDouble x).text = x.text ↔ k.natAbs < 2 ^ 53) ∧
      (SpellAlike x ↔ k.natAbs < 2 ^ 53) := by
  have printers := Json.text_ofDouble_eq_text_iff integer bounded
  exact ⟨Double.exists_text_eq_toString integer bounded, printers,
    (spellAlike_iff x).trans printers⟩

/-- The first integer that two places spell in different ways. -/
theorem spelled_integer_two_pow :
    ((Double.ofInt (2 ^ 53)).integer? = some (2 ^ 53) ∧ (2 ^ 53 : Int).natAbs < 10 ^ 21) ∧
      (Double.ofInt (2 ^ 53)).text = "9007199254740992" ∧
      (Json.ofDouble (.ofInt (2 ^ 53))).text ≠ "9007199254740992" ∧
      ¬SpellAlike (.ofInt (2 ^ 53)) := by
  have integer : (Double.ofInt (2 ^ 53)).integer? = some (2 ^ 53) :=
    Double.integer?_ofInt_of_le (by decide)
  have bounded : (2 ^ 53 : Int).natAbs < 10 ^ 21 := by decide
  have text : (Double.ofInt (2 ^ 53)).text = "9007199254740992" :=
    Double.text_eq_toString integer (by decide)
  obtain ⟨-, printers, places⟩ := spelled_integer integer bounded
  refine ⟨⟨integer, bounded⟩, text, ?_, fun alike => absurd (places.mp alike) (by decide)⟩
  rw [← text]
  exact fun same => absurd (printers.mp same) (by decide)

end NumberPlace

end SchemaSource
