import SchemaSource.Proofs.NumeralText
import SchemaSource.Proofs.NumberLiteral
/-!
Numbers as the reader of a generated module sees them. Every text of a number or a big integer is an
expression with its value, unless it is a negated power: there the minus sign stands before the base
of a power, which the grammar forbids.
-/
namespace SchemaSource.Script

/-! ## Literals of either kind -/

/-- How a suffix makes literals of digits. -/
def Literals (suffix : String) (value : Nat → Value) : Prop :=
  ∀ (n : Nat) {rest : List Char}, EndsLiteral rest →
    token? (Nat.toDigits 10 n ++ (suffix.toList ++ rest)) = some (.literal (value n), rest)

theorem leading_toDigits (n : Nat) :
    (Nat.toDigits 10 n).head? = some '0' → Nat.toDigits 10 n = ['0'] := by
  intro first
  rcases Nat.eq_zero_or_pos n with rfl | positive
  · rfl
  · exact absurd first (head?_toDigits positive)

theorem literals_number : Literals "" fun n => .number (.ofNat n) := by
  intro n rest ends
  have formed : Parts.WellFormed ⟨Nat.toDigits 10 n, [], none⟩ :=
    ⟨Nat.toDigits_ne_nil, isDigit_toDigits n, nofun, leading_toDigits n⟩
  have decimal : nearest (Parts.decimal ⟨Nat.toDigits 10 n, [], none⟩) = .ofNat n := by
    simp [Parts.decimal, Nat.ofDigitChars_ten_toDigits, nearest, Double.ofNat]
  have text : Parts.text ⟨Nat.toDigits 10 n, [], none⟩ = Nat.toDigits 10 n := by
    simp [Parts.text, Parts.fractionText, Parts.powerText]
  have token := token?_text ends formed
  rw [decimal, text] at token
  exact token

theorem literals_bigint : Literals "n" fun n => .bigint n := by
  intro n rest ends
  obtain ⟨c, others, shape⟩ := List.exists_cons_of_ne_nil (Nat.toDigits_ne_nil (n := n) (b := 10))
  refine token?_of_number? ends (c := c) ?_ (isDigit_toDigits n c (shape ▸ List.mem_cons_self)) ?_
  · rw [shape]
    rfl
  · have suffix : ∀ c ∈ ('n' :: rest).head?, c.isDigit = false := by
      rintro c ⟨⟩
      decide
    have zero : ¬((Nat.toDigits 10 n).head? = some '0' ∧ Nat.toDigits 10 n ≠ ['0']) :=
      fun ⟨first, other⟩ => other (leading_toDigits n first)
    obtain ⟨taken, dropped⟩ := digits_append (isDigit_toDigits n) suffix
    change number? (Nat.toDigits 10 n ++ 'n' :: rest) = _
    simp only [number?, taken, dropped, if_neg zero, Nat.toDigits_ne_nil, ↓reduceIte,
      Nat.ofDigitChars_ten_toDigits]

/-! ## The tokens of a symbol -/

section Symbols

variable {suffix : String} {value : Nat → Value} (literals : Literals suffix value)
include literals

theorem tokens_literal (n : Nat) {rest : List Char} {tokens : List Token} (ends : EndsLiteral rest)
    (more : Tokens rest tokens) :
    Tokens (Nat.toDigits 10 n ++ (suffix.toList ++ rest)) (.literal (value n) :: tokens) :=
  .token (literals n ends) more

theorem tokens_powerText (k : Nat) {rest : List Char} {tokens : List Token}
    (ends : EndsLiteral rest) (more : Tokens rest tokens) :
    Tokens ((Numeral.text.powerText suffix k).toList ++ rest)
      (.literal (value 2) :: .mark .power :: .literal (value k) :: tokens) := by
  have exponent := tokens_power (tokens_literal literals k ends more)
  have base := tokens_literal literals 2 (by rintro c ⟨⟩; decide) exponent
  have text : (Numeral.text.powerText suffix k).toList ++ rest = Nat.toDigits 10 2 ++
      (suffix.toList ++ '*' :: '*' :: (Nat.toDigits 10 k ++ (suffix.toList ++ rest))) := by
    have two : Nat.toDigits 10 2 = ['2'] := rfl
    simp [Numeral.text.powerText, Nat.repr_eq_ofList_toDigits, two]
  rw [text]
  exact base

theorem tokens_powerLessOne (k : Nat) {rest : List Char} {tokens : List Token}
    (ends : EndsLiteral rest) (more : Tokens rest tokens) :
    Tokens ((Numeral.text suffix (.powerLessOne k)).toList ++ rest)
      (.literal (value 2) :: .mark .power :: .literal (value k) :: .mark .minus ::
        .literal (value 1) :: tokens) := by
  have one := Tokens.blank (c := ' ') (by decide) (tokens_literal literals 1 ends more)
  have minus := Tokens.blank (c := ' ') (by decide) (tokens_minus one nofun)
  have power := tokens_powerText literals k (by rintro c ⟨⟩; decide) minus
  have text : (Numeral.text suffix (.powerLessOne k)).toList ++ rest =
      (Numeral.text.powerText suffix k).toList ++
        ' ' :: '-' :: ' ' :: (Nat.toDigits 10 1 ++ (suffix.toList ++ rest)) := by
    have one : Nat.toDigits 10 1 = ['1'] := rfl
    simp [Numeral.text, one]
  rw [text]
  exact power

omit literals in
theorem derives_power (base exponent : Value) :
    Derives .power [.literal base, .mark .power, .literal exponent]
      (.power (.literal base) (.literal exponent)) :=
  .power (.literal base) (.factor (.operand (.literal exponent)))

omit literals in
theorem derives_powerLessOne (base exponent one : Value) :
    Derives .additive
      [.literal base, .mark .power, .literal exponent, .mark .minus, .literal one]
      (.difference (.power (.literal base) (.literal exponent)) (.literal one)) :=
  .difference (.term (derives_power base exponent)) (.factor (.operand (.literal one)))

/-- A minus sign before a bare power makes no expression. -/
theorem not_isExpression_negatedPower (k : Nat) :
    ¬IsExpression (Numeral.text suffix (.negatedPower k)) := by
  rintro ⟨tokens, e, scanned, derived⟩
  have power := tokens_powerText literals k .nil .done
  have negated := tokens_minus power nofun
  have text : (Numeral.text suffix (.negatedPower k)).toList =
      '-' :: ((Numeral.text.powerText suffix k).toList ++ []) := by
    simp [Numeral.text]
  rw [text] at scanned
  obtain rfl := scanned.unique negated
  exact not_derives_negated_base _ _ e derived

theorem evaluates_power {k : Nat} {held : Value}
    (power : (Expr.power (.literal (value 2)) (.literal (value k))).value? = some held) :
    Evaluates (Numeral.text suffix (.power k)) held := by
  have scanned := tokens_powerText literals k .nil .done
  rw [List.append_nil] at scanned
  exact ⟨_, _, scanned, .term (derives_power _ _), power⟩

theorem evaluates_powerLessOne {k : Nat} {held : Value}
    (difference : (Expr.difference (.power (.literal (value 2)) (.literal (value k)))
      (.literal (value 1))).value? = some held) :
    Evaluates (Numeral.text suffix (.powerLessOne k)) held := by
  have scanned := tokens_powerLessOne literals k .nil .done
  rw [List.append_nil] at scanned
  exact ⟨_, _, scanned, derives_powerLessOne _ _ _, difference⟩

theorem evaluates_negatedPowerLessOne {k : Nat} {held : Value}
    (negated : (Expr.negate (.difference (.power (.literal (value 2)) (.literal (value k)))
      (.literal (value 1)))).value? = some held) :
    Evaluates (Numeral.text suffix (.negatedPowerLessOne k)) held := by
  have closing : Tokens [')'] [.mark .closing] := .token rfl .done
  have difference := tokens_powerLessOne literals k (by rintro c ⟨⟩; decide) closing
  have opening : Tokens ('(' :: _) _ := .token rfl difference
  have text : (Numeral.text suffix (.negatedPowerLessOne k)).toList =
      '-' :: '(' :: ((Numeral.text suffix (.powerLessOne k)).toList ++ [')']) := by
    simp [Numeral.text]
  refine ⟨_, _, text ▸ tokens_minus opening nofun, ?_, negated⟩
  exact .term (.factor (.negate (.operand (.parenthesized (derives_powerLessOne _ _ _)))))

end Symbols

/-! ## The value of a symbol -/

attribute [local simp] Expr.value?

theorem value?_power_number {k : Nat} (small : k < 2 ^ 53) :
    (Expr.power (.literal (.number (.ofNat 2))) (.literal (.number (.ofNat k)))).value? =
      some (.number (.ofInt (2 ^ k))) := by
  have base : (Double.ofNat 2).integer? = some 2 := Double.integer?_ofInt (k := 2) (by decide)
  have exponent : (Double.ofNat k).integer? = some k := Double.integer?_ofInt (k := k) (by omega)
  simp [base, exponent]

theorem value?_power_bigint (k : Nat) :
    (Expr.power (.literal (.bigint (2 : Nat))) (.literal (.bigint k))).value? =
      some (.bigint (2 ^ k)) := by
  simp

theorem value?_powerLessOne_bigint (k : Nat) :
    (Expr.difference (.power (.literal (.bigint (2 : Nat))) (.literal (.bigint k)))
      (.literal (.bigint (1 : Nat)))).value? = some (.bigint (2 ^ k - 1)) := by
  rw [Expr.value?, value?_power_bigint]
  rfl

/-- A symbol of a number is an expression for it, unless it negates a power. -/
theorem evaluates_ofNumber {numeral : Numeral} (member : numeral ∈ Numeral.ofNumber)
    (plain : ∀ k, numeral ≠ .negatedPower k) :
    Evaluates (numeral.text "") (.number (.ofInt numeral.value)) := by
  have free : "Number" ∉ reservedWords := by decide
  cases numeral with
  | maxSafe =>
    exact evaluates_unary (.token rfl (.token rfl (.token rfl .done)))
      (.operand (.property "MAX_SAFE_INTEGER" (.reference free))) rfl
  | minSafe =>
    exact evaluates_unary (.token rfl (.token rfl (.token rfl .done)))
      (.operand (.property "MIN_SAFE_INTEGER" (.reference free))) rfl
  | power k =>
    have known : ∀ k, .power k ∈ Numeral.ofNumber → k < 2 ^ 53 := by
      intro k member
      simp [Numeral.ofNumber] at member
      omega
    exact evaluates_power literals_number (value?_power_number (known k member))
  | powerLessOne k =>
    have known : k ∈ [7, 15, 31, 8, 16, 32] := by
      simpa [Numeral.ofNumber, or_assoc] using member
    have exact : ∀ k ∈ [7, 15, 31, 8, 16, 32],
        k < 2 ^ 53 ∧ minus? (.ofInt (2 ^ k)) (.ofNat 1) = some (.ofInt (2 ^ k - 1)) := by
      decide +kernel
    obtain ⟨small, difference⟩ := exact k known
    refine evaluates_powerLessOne literals_number ?_
    rw [Expr.value?, value?_power_number small]
    simp only [Expr.value?, difference, Option.map_some]
    rfl
  | negatedPower k => exact absurd rfl (plain k)
  | negatedPowerLessOne k => simp [Numeral.ofNumber] at member

/-- And so is one of a big integer. -/
theorem evaluates_ofBigint {numeral : Numeral} (member : numeral ∈ Numeral.ofBigint)
    (plain : ∀ k, numeral ≠ .negatedPower k) :
    Evaluates (numeral.text "n") (.bigint numeral.value) := by
  cases numeral with
  | maxSafe => simp [Numeral.ofBigint] at member
  | minSafe => simp [Numeral.ofBigint] at member
  | power k => exact evaluates_power literals_bigint (value?_power_bigint k)
  | powerLessOne k =>
    exact evaluates_powerLessOne literals_bigint (value?_powerLessOne_bigint k)
  | negatedPower k => exact absurd rfl (plain k)
  | negatedPowerLessOne k =>
    refine evaluates_negatedPowerLessOne literals_bigint ?_
    rw [Expr.value?, value?_powerLessOne_bigint]
    rfl

/-! ## All numbers -/

theorem evaluates_bigintText (n : Int) : Evaluates (bigintText n) (.bigint n) := by
  have scanned := tokens_literal literals_bigint n.natAbs .nil .done
  have text : (bigintText n).toList = if n < 0 then '-' :: (Nat.toDigits 10 n.natAbs ++ ['n'])
      else Nat.toDigits 10 n.natAbs ++ ['n'] := by
    rw [bigintText, String.toList_append, toList_toString_int]
    split <;> rfl
  by_cases negative : n < 0
  · rw [if_pos negative] at text
    have value : -(n.natAbs : Int) = n := by omega
    refine evaluates_unary (text ▸ tokens_minus scanned nofun) (.negate (.operand (.literal _))) ?_
    simp only [Expr.value?, value]
  · rw [if_neg negative] at text
    have value : (n.natAbs : Int) = n := by omega
    refine evaluates_unary (text ▸ scanned) (.operand (.literal _)) ?_
    simp only [Expr.value?, value]

/-- An integer without its power of two is the mantissa. -/
theorem div_two_pow_eq {N mantissa : Nat} {exponent : Int}
    (value : N * 2 ^ (-exponent).toNat = mantissa * 2 ^ exponent.toNat) :
    (N : ℚ) / 2 ^ exponent = mantissa := by
  have room : ((2 ^ (-exponent).toNat : Nat) : ℚ) ≠ 0 := by positivity
  have unit : (2 : ℚ) ^ exponent ≠ 0 := (zpow_pos (by norm_num) exponent).ne'
  have power := Double.pow_toNat_div 2 (by decide) exponent
  rw [Nat.cast_ofNat] at power
  have scaled :
      (N : ℚ) * (2 ^ (-exponent).toNat : Nat) = mantissa * (2 ^ exponent.toNat : Nat) := by
    exact_mod_cast value
  calc (N : ℚ) / 2 ^ exponent
      = N * (2 ^ (-exponent).toNat : Nat) / (2 ^ (-exponent).toNat : Nat) / 2 ^ exponent := by
        rw [mul_div_cancel_right₀ _ room]
    _ = mantissa * 2 ^ exponent / 2 ^ exponent := by rw [scaled, mul_div_assoc, power]
    _ = mantissa := mul_div_cancel_right₀ _ unit

/-- The double of a nonzero integer is the only number that has this value. -/
theorem ofInt_of_integer? {x : Double} {k : Int} (integer : x.integer? = some k) (some : k ≠ 0) :
    x = .ofInt k := by
  cases x with
  | nan => cases integer
  | infinite negative => cases integer
  | finite negative mantissa exponent canonical =>
    obtain ⟨N, value, sign⟩ := Double.integer?_eq_some integer
    have positive : 0 < N := by
      apply Nat.pos_of_ne_zero
      rintro rfl
      cases negative <;> exact some sign
    have nonzero : mantissa ≠ 0 := by
      rintro rfl
      rw [Nat.zero_mul] at value
      exact absurd value (Nat.mul_pos positive (Nat.two_pow_pos _)).ne'
    have center := Double.holds_center nonzero (div_two_pow_eq value)
    have read := Double.ofInt_of_holds canonical nonzero negative positive center
    have same : k = Double.signed negative N := sign
    rw [same, read]

/-- A minus sign stands before a bare power. -/
def NegatesPower : Numeral → Bool
  | .negatedPower _ => true
  | _ => false

section Table

variable {symbols : List Numeral} {exponents : List Nat}

/-- The integers whose symbol negates a power, as the exponents of these powers tell them. -/
theorem find?_negatedPower_iff
    (table : ∀ numeral ∈ symbols,
      NegatesPower numeral = true ↔ ∃ k ∈ exponents, numeral.value = -2 ^ k)
    (listed : ∀ k ∈ exponents, .negatedPower k ∈ symbols) (n : Int) :
    (∃ k, Numeral.find? symbols n = some (.negatedPower k)) ↔ ∃ k ∈ exponents, n = -2 ^ k := by
  constructor
  · rintro ⟨k, found⟩
    have value : (Numeral.negatedPower k).value = n := by simpa using List.find?_some found
    exact value ▸ (table _ (List.mem_of_find?_eq_some found)).mp rfl
  · rintro ⟨k, known, rfl⟩
    have member := listed k known
    obtain ⟨numeral, found⟩ : ∃ numeral, Numeral.find? symbols (-2 ^ k) = some numeral :=
      Option.isSome_iff_exists.mp (List.find?_isSome.mpr ⟨_, member, by simp [Numeral.value]⟩)
    have value : numeral.value = -2 ^ k := by simpa using List.find?_some found
    have negates := (table numeral (List.mem_of_find?_eq_some found)).mpr ⟨k, known, value⟩
    cases numeral with
    | negatedPower j => exact ⟨j, found⟩
    | maxSafe | minSafe | power | powerLessOne | negatedPowerLessOne => cases negates

end Table

theorem find?_ofNumber_negates_iff (n : Int) :
    (∃ k, Numeral.find? Numeral.ofNumber n = some (.negatedPower k)) ↔
      ∃ k ∈ [7, 15, 31], n = -2 ^ k :=
  find?_negatedPower_iff (by decide +kernel) (by decide) n

theorem find?_ofBigint_negates_iff (n : Int) :
    (∃ k, Numeral.find? Numeral.ofBigint n = some (.negatedPower k)) ↔
      ∃ k ∈ [8, 16, 32, 63, 64], n = -2 ^ k :=
  find?_negatedPower_iff (by decide +kernel) (by decide) n

end SchemaSource.Script

namespace SchemaSource

open Script

/-- The text is an expression for a value but in the exceptional case, where it is none at all. -/
def IsLegalUnless (exception : Prop) (text : String) (value : Value) : Prop :=
  (IsExpression text ↔ ¬exception) ∧ (Evaluates text value ↔ ¬exception)

theorem isLegalUnless {exception : Prop} {text : String} {value : Value}
    (illegal : exception → ¬IsExpression text) (legal : ¬exception → Evaluates text value) :
    IsLegalUnless exception text value := by
  refine ⟨⟨fun some bad => illegal bad some, fun good => (legal good).isExpression⟩,
    ⟨fun some bad => illegal bad some.isExpression, legal⟩⟩

/-- An integer is written legally, as a symbol or plainly, unless its symbol negates a power. -/
theorem table_legal {suffix : String} {literal : Nat → Value} (literals : Literals suffix literal)
    (symbols : List Numeral) (n : Int) {exception : Prop} {text : String} {value : Value}
    (negates : exception ↔ ∃ k, Numeral.find? symbols n = some (.negatedPower k))
    (symbol : ∀ numeral, Numeral.find? symbols n = some numeral → text = numeral.text suffix)
    (evaluates : ∀ numeral ∈ symbols, numeral.value = n →
      (∀ k, numeral ≠ .negatedPower k) → Evaluates (numeral.text suffix) value)
    (plain : Numeral.find? symbols n = none → Evaluates text value) :
    IsLegalUnless exception text value := by
  cases found : Numeral.find? symbols n with
  | none =>
    refine isLegalUnless (fun bad => ?_) fun _ => plain found
    obtain ⟨k, negated⟩ := negates.mp bad
    rw [found] at negated
    cases negated
  | some numeral =>
    have member := List.mem_of_find?_eq_some found
    have same : numeral.value = n := by simpa using List.find?_some found
    rw [symbol numeral found]
    refine isLegalUnless (fun bad => ?_) fun good => evaluates numeral member same ?_
    · obtain ⟨k, negated⟩ := negates.mp bad
      rw [found, Option.some.injEq] at negated
      exact negated ▸ not_isExpression_negatedPower literals k
    · intro k shape
      exact good (negates.mpr ⟨k, shape ▸ found⟩)

theorem withoutZeroSign_of_integer? {x : Double} {k : Int} (integer : x.integer? = some k)
    (nonzero : k ≠ 0) : withoutZeroSign x = x := by
  refine if_neg fun zero => nonzero ?_
  rw [integer?_of_isZero zero, Option.some.injEq] at integer
  exact integer.symm

/-- The number is the negative of a power that has a symbol, and symbols are in use. -/
def Optimizations.NegatesPower (o : Optimizations) (x : Double) : Prop :=
  o.scientificNotation = true ∧ ∃ k ∈ [7, 15, 31], x.integer? = some (-2 ^ k)

def Optimizations.NegatesBigPower (o : Optimizations) (n : Int) : Prop :=
  o.scientificNotation = true ∧ ∃ k ∈ [8, 16, 32, 63, 64], n = -2 ^ k

theorem numberText_legal (o : Optimizations) (x : Double) :
    IsLegalUnless (o.NegatesPower x) (o.numberText x) (.number (withoutZeroSign x)) := by
  have plain (text : o.numberText x = x.text) :
      Evaluates (o.numberText x) (.number (withoutZeroSign x)) := text ▸ evaluates_text x
  by_cases symbolic : o.scientificNotation = true
  · have text : o.numberText x = x.symbolicText := if_pos symbolic
    rw [Double.symbolicText] at text
    cases integer : x.integer? with
    | none =>
      rw [integer] at text
      refine isLegalUnless ?_ fun _ => plain text
      rintro ⟨-, k, -, negative⟩
      rw [integer] at negative
      cases negative
    | some n =>
      rw [integer, Option.bind_some] at text
      refine table_legal literals_number Numeral.ofNumber n ?_ ?_ ?_ ?_
      · rw [find?_ofNumber_negates_iff, Optimizations.NegatesPower, integer]
        simp only [symbolic, true_and, Option.some.injEq]
      · intro numeral found
        rw [text, found]
      · intro numeral member same other
        have nonzero : ∀ numeral ∈ Numeral.ofNumber, numeral.value ≠ 0 := by decide
        have nonzero : n ≠ 0 := same ▸ nonzero numeral member
        rw [withoutZeroSign_of_integer? integer nonzero, ofInt_of_integer? integer nonzero, ← same]
        exact evaluates_ofNumber member other
      · intro missing
        rw [missing] at text
        exact plain text
  · exact isLegalUnless (fun bad => absurd bad.1 symbolic) fun _ => plain (if_neg symbolic)

theorem bigintText_legal (o : Optimizations) (n : Int) :
    IsLegalUnless (o.NegatesBigPower n) (o.bigintText n) (.bigint n) := by
  have plain (text : o.bigintText n = bigintText n) : Evaluates (o.bigintText n) (.bigint n) :=
    text ▸ evaluates_bigintText n
  by_cases symbolic : o.scientificNotation = true
  · have text : o.bigintText n = symbolicBigintText n := if_pos symbolic
    rw [symbolicBigintText] at text
    refine table_legal literals_bigint Numeral.ofBigint n ?_ ?_ ?_ ?_
    · rw [find?_ofBigint_negates_iff, Optimizations.NegatesBigPower]
      simp only [symbolic, true_and]
    · intro numeral found
      rw [text, found]
    · intro numeral member same other
      exact same ▸ evaluates_ofBigint member other
    · intro missing
      rw [missing] at text
      exact plain text
  · exact isLegalUnless (fun bad => absurd bad.1 symbolic) fun _ => plain (if_neg symbolic)

/-- **Which numbers are written legally.** Under all options the text of every number and of every
big integer is an expression that evaluates to it, and zero loses its sign. The only exceptions are
the negatives of certain powers of two: spelled as a symbol, they are no expressions at all. -/
theorem number_texts_legal (o : Optimizations) :
    (∀ x, IsLegalUnless (o.NegatesPower x) (o.numberText x) (.number (withoutZeroSign x))) ∧
      ∀ n, IsLegalUnless (o.NegatesBigPower n) (o.bigintText n) (.bigint n) :=
  ⟨numberText_legal o, bigintText_legal o⟩

end SchemaSource
