import SchemaSource.Proofs.IntegerText
import SchemaSource.Proofs.Rounding
/-!
The search for the shortest digits. It ends on a decimal in the interval of its number: the finest
of the grids is so fine that the nearer of the two points beside a number cannot lie outside.
-/
namespace SchemaSource.Double

/-- The fraction that a decimal stands for. -/
def Decimal.value (d : Decimal) : ℚ := d.digits * 10 ^ d.exponent

theorem lt_pow_digitCount (n : Nat) : n < 10 ^ digitCount n :=
  (digitCount_le_iff (digitCount_pos n)).mp (Nat.le_refl _)

theorem pow_le_of_digitCount {n : Nat} (positive : 0 < n) :
    (10 : ℚ) ^ ((digitCount n : Int) - 1) ≤ n := by
  have count := digitCount_pos n
  have least : 10 ^ (digitCount n - 1) ≤ n := by
    rcases Nat.eq_zero_or_pos (digitCount n - 1) with one | more
    · rw [one]
      exact positive
    · have longer := not_congr (digitCount_le_iff (n := n) more)
      omega
  have exponent : (digitCount n : Int) - 1 = (digitCount n - 1 : Nat) := by omega
  rw [exponent]
  exact_mod_cast least

/-- Moving final zeros into the exponent keeps the value. -/
theorem Decimal.value_trim (d : Decimal) : d.trim.value = d.value := by
  fun_induction Decimal.trim d with
  | case1 d more ih =>
    have tens : d.digits / 10 * 10 = d.digits := by omega
    have digits : (d.digits : ℚ) = (d.digits / 10 : Nat) * 10 := by exact_mod_cast tens.symm
    rw [ih, Decimal.value, Decimal.value, digits, zpow_add_one₀ (by norm_num)]
    ring
  | case2 d last => rfl

/-! ## Decimals in an interval -/

/-- A fraction against a decimal, by their terms. -/
theorem div_le_decimal_iff {a b : Nat} (positive : 0 < b) (digits : Nat) (x : Int) :
    (a : ℚ) / b ≤ digits * 10 ^ x ↔ a * 10 ^ (-x).toNat ≤ digits * 10 ^ x.toNat * b := by
  have power := pow_toNat_div 10 (by decide) x
  have shift : (0 : ℚ) < (10 ^ (-x).toNat : Nat) := by positivity
  have rational : (0 : ℚ) < b := by exact_mod_cast positive
  rw [Nat.cast_ofNat] at power
  rw [← power, ← mul_div_assoc, div_le_div_iff₀ rational shift]
  exact_mod_cast Iff.rfl

theorem decimal_le_div_iff {a b : Nat} (positive : 0 < b) (digits : Nat) (x : Int) :
    digits * 10 ^ x ≤ (a : ℚ) / b ↔ digits * 10 ^ x.toNat * b ≤ a * 10 ^ (-x).toNat := by
  have power := pow_toNat_div 10 (by decide) x
  have shift : (0 : ℚ) < (10 ^ (-x).toNat : Nat) := by positivity
  have rational : (0 : ℚ) < b := by exact_mod_cast positive
  rw [Nat.cast_ofNat] at power
  rw [← power, ← mul_div_assoc, div_le_div_iff₀ shift rational]
  exact_mod_cast Iff.rfl

namespace Neighbourhood

variable {n : Neighbourhood} (positive : 0 < n.denominator)
include positive

theorem contains_iff_holds (d : Decimal) : n.contains d = true ↔ n.Holds d.value := by
  have low := div_le_decimal_iff (a := n.low) positive d.digits d.exponent
  have high := decimal_le_div_iff (a := n.high) positive d.digits d.exponent
  have low' := not_congr (decimal_le_div_iff (a := n.low) positive d.digits d.exponent)
  have high' := not_congr (div_le_decimal_iff (a := n.high) positive d.digits d.exponent)
  rw [not_le, Nat.not_le] at low' high'
  unfold contains Holds Decimal.value
  rw [low, high, low', high']
  split <;> simp only [Bool.and_eq_true, decide_eq_true_eq]

/-! ## The finest grid -/

/-- A number is at least as large as its decade says. -/
theorem decade_le (some : 0 < n.value) : (10 : ℚ) ^ n.decade ≤ n.value / n.denominator := by
  have test (k : Int) : n.denominator * 10 ^ k.toNat ≤ n.value * 10 ^ (-k).toNat ↔
      (10 : ℚ) ^ k ≤ n.value / n.denominator := by
    have decimal := decimal_le_div_iff (a := n.value) positive 1 k
    rw [Nat.cast_one, one_mul, Nat.one_mul, Nat.mul_comm] at decimal
    exact decimal.symm
  unfold decade
  by_cases reached : n.denominator *
      10 ^ ((digitCount n.value : Int) - digitCount n.denominator).toNat ≤
        n.value * 10 ^ (-((digitCount n.value : Int) - digitCount n.denominator)).toNat
  · rw [if_pos reached]
    exact (test _).mp reached
  · rw [if_neg reached]
    have rational : (0 : ℚ) < n.denominator := by exact_mod_cast positive
    have least := pow_le_of_digitCount some
    have most : (n.denominator : ℚ) ≤ 10 ^ (digitCount n.denominator : Int) := by
      exact_mod_cast (lt_pow_digitCount n.denominator).le
    rw [le_div_iff₀ rational]
    calc (10 : ℚ) ^ ((digitCount n.value : Int) - digitCount n.denominator - 1) * n.denominator
        ≤ 10 ^ ((digitCount n.value : Int) - digitCount n.denominator - 1) *
            10 ^ (digitCount n.denominator : Int) :=
          mul_le_mul_of_nonneg_left most (zpow_pos (by norm_num) _).le
      _ = 10 ^ ((digitCount n.value : Int) - 1) := by
          rw [← zpow_add₀ (by norm_num)]
          congr 1
          omega
      _ ≤ n.value := least

omit positive in
/-- What a grid offers lies in the interval. -/
theorem contains_of_onGrid? {tie : Tie} {exponent : Int} {d : Decimal}
    (offered : n.onGrid? tie exponent = some d) : n.contains d = true := by
  simp only [onGrid?] at offered
  split at offered
  · exact (Tight.chosen offered).2
  · exact (Tight.chosen offered).2

/-- The nearer of the grid points beside a number is at most half a step away. -/
def IsNear (n : Neighbourhood) (d : Decimal) : Prop :=
  |d.value - n.value / n.denominator| ≤ 10 ^ d.exponent / 2

omit positive in
/-- A point is near by its digits alone, in steps of the grid. -/
theorem isNear_iff {exponent : Int} {x : ℚ} (place : x * 10 ^ exponent = n.value / n.denominator)
    (digits : Nat) : n.IsNear ⟨digits, exponent⟩ ↔ |digits - x| ≤ 1 / 2 := by
  have step : (0 : ℚ) < 10 ^ exponent := zpow_pos (by norm_num) exponent
  rw [IsNear, Decimal.value, ← place, ← sub_mul, abs_mul, abs_of_pos step, ← le_div_iff₀ step,
    div_right_comm, div_self step.ne']

/-- A grid offers the nearer of its points beside a number, if that lies in the interval. -/
theorem onGrid?_of_near (tie : Tie) (exponent : Int)
    (inside : ∀ d : Decimal, d.exponent = exponent → n.IsNear d → n.contains d = true) :
    ∃ d, n.onGrid? tie exponent = some d := by
  have scalePositive : 0 < n.denominator * 10 ^ exponent.toNat :=
    Nat.mul_pos positive (Nat.pow_pos (by decide))
  have fraction : ((n.value * 10 ^ (-exponent).toNat : Nat) : ℚ) /
      (n.denominator * 10 ^ exponent.toNat : Nat) * 10 ^ exponent = n.value / n.denominator := by
    have step : (10 : ℚ) ^ exponent ≠ 0 := (zpow_pos (by norm_num) exponent).ne'
    rw [shifted_div_neg 10 (by decide)]
    exact div_mul_cancel₀ _ step
  unfold onGrid?
  dsimp only
  generalize n.value * 10 ^ (-exponent).toNat = value at fraction ⊢
  generalize n.denominator * 10 ^ exponent.toNat = scale at fraction scalePositive ⊢
  have size := div_eq_parts value scalePositive
  have proper := part_lt_one scalePositive (Nat.mod_lt value scalePositive)
  have half := part_lt_half_iff (value % scale) scalePositive
  have most := half_lt_part_iff (value % scale) scalePositive
  generalize value / scale = quotient at size ⊢
  generalize value % scale = remainder at size proper half most ⊢
  have nonnegative : (0 : ℚ) ≤ remainder / scale := by positivity
  generalize (remainder : ℚ) / scale = part at size proper half most nonnegative
  rw [size] at fraction
  have below (small : ¬scale < 2 * remainder) : n.contains ⟨quotient, exponent⟩ = true := by
    have part_le : part ≤ 1 / 2 := le_of_not_gt fun more => small (most.mp more)
    refine inside _ rfl ((isNear_iff fraction quotient).mpr ?_)
    rw [abs_le]
    constructor <;> linarith
  have above (large : ¬2 * remainder < scale) : n.contains ⟨quotient + 1, exponent⟩ = true := by
    have part_ge : 1 / 2 ≤ part := le_of_not_gt fun less => large (half.mp less)
    refine inside _ rfl ((isNear_iff fraction (quotient + 1)).mpr ?_)
    rw [abs_le]
    push_cast
    constructor <;> linarith
  by_cases upward : (decide (scale < 2 * remainder) ||
      2 * remainder == scale && (tie == .up || quotient % 2 == 1)) = true
  · have large : ¬2 * remainder < scale := by
      simp only [Bool.or_eq_true, Bool.and_eq_true, decide_eq_true_eq, beq_iff_eq] at upward
      omega
    refine ⟨⟨quotient + 1, exponent⟩, ?_⟩
    rw [if_pos upward, if_pos (above large)]
  · have small : ¬scale < 2 * remainder := by
      simp only [Bool.or_eq_true, decide_eq_true_eq] at upward
      omega
    refine ⟨⟨quotient, exponent⟩, ?_⟩
    rw [if_neg upward, if_pos (below small)]

end Neighbourhood

/-! ## The search -/

section Search

variable {mantissa : Nat} (exponent : Int)

variable (mantissa) in
theorem denominator_pos : 0 < (neighbourhood mantissa exponent).denominator :=
  Nat.mul_pos (by decide) (Nat.pow_pos (by decide))

theorem value_pos (some : mantissa ≠ 0) : 0 < (neighbourhood mantissa exponent).value :=
  Nat.mul_pos (by omega) (Nat.pow_pos (by decide))

/-- Seventeen digits are enough: a point that is near on that grid lies in the interval. -/
theorem holds_of_near (some : mantissa ≠ 0) (short : mantissa < 2 ^ 53) {d : Decimal}
    (finest : d.exponent = (neighbourhood mantissa exponent).decade - 16)
    (near : (neighbourhood mantissa exponent).IsNear d) :
    (neighbourhood mantissa exponent).Holds d.value := by
  have unit : (0 : ℚ) < 2 ^ exponent := zpow_pos (by norm_num) exponent
  have reached := Neighbourhood.decade_le (denominator_pos mantissa exponent)
    (value_pos exponent some)
  have short : (mantissa : ℚ) + 1 ≤ 2 ^ 53 := by exact_mod_cast short
  have step : (10 : ℚ) ^ d.exponent * 10 ^ 16 ≤ mantissa * 2 ^ exponent := by
    rw [value_div] at reached
    calc (10 : ℚ) ^ d.exponent * 10 ^ 16 = 10 ^ (neighbourhood mantissa exponent).decade := by
          rw [finest, zpow_sub₀ (by norm_num)]
          exact div_mul_cancel₀ _ (by norm_num)
      _ ≤ mantissa * 2 ^ exponent := reached
  rw [Neighbourhood.IsNear, value_div, abs_le] at near
  have half : (mantissa : ℚ) / 2 / 10 ^ 16 < 1 / 2 := by linarith
  have bounds : mantissa - mantissa / 2 / 10 ^ 16 ≤ d.value / 2 ^ exponent ∧
      d.value / 2 ^ exponent ≤ mantissa + mantissa / 2 / 10 ^ 16 := by
    rw [le_div_iff₀ unit, div_le_iff₀ unit]
    constructor <;> linarith [near.1, near.2]
  have gap : (mantissa : ℚ) / 2 / 10 ^ 16 < gapBelow mantissa exponent := by
    unfold gapBelow
    split
    next power =>
      rw [power.1]
      norm_num
    next => exact half
  rw [holds_iff some]
  split
  · constructor <;> linarith [bounds.1, bounds.2]
  · constructor <;> linarith [bounds.1, bounds.2]

/-- The search ends on a decimal of the interval, on the finest grid if on no coarser one. -/
theorem exists_shortest (some : mantissa ≠ 0) (short : mantissa < 2 ^ 53) (tie : Tie) :
    ∃ d, (neighbourhood mantissa exponent).contains d = true ∧
      (neighbourhood mantissa exponent).shortest tie = d.trim := by
  have positive := denominator_pos mantissa exponent
  obtain ⟨last, offered⟩ := Neighbourhood.onGrid?_of_near positive tie
    ((neighbourhood mantissa exponent).decade - (16 : Nat)) fun d finest near =>
      (Neighbourhood.contains_iff_holds positive d).mpr
        (holds_of_near exponent some short finest near)
  have sixteenth : 16 < 17 := by decide
  obtain ⟨j, d, -, found, search⟩ := Neighbourhood.shortest_of_offer sixteenth offered
  exact ⟨d, Neighbourhood.contains_of_onGrid? found, search⟩

/-- **The shortest digits lie in the interval of their number.** -/
theorem shortest_holds (some : mantissa ≠ 0) (short : mantissa < 2 ^ 53) (tie : Tie) :
    (neighbourhood mantissa exponent).Holds (shortest mantissa exponent tie).value := by
  obtain ⟨d, inside, found⟩ := exists_shortest exponent some short tie
  rw [shortest, if_neg some, found, Decimal.value_trim]
  exact (Neighbourhood.contains_iff_holds (denominator_pos mantissa exponent) d).mp inside

theorem digits_shortest_pos (some : mantissa ≠ 0) (short : mantissa < 2 ^ 53) (tie : Tie) :
    0 < (shortest mantissa exponent tie).digits := by
  have unit : (0 : ℚ) < 2 ^ exponent := zpow_pos (by norm_num) exponent
  have one : (1 : ℚ) ≤ mantissa := by exact_mod_cast Nat.pos_of_ne_zero some
  have gap := gapBelow_le mantissa exponent
  have least := (bounds_of_holds some (shortest_holds exponent some short tie)).1
  apply Nat.pos_of_ne_zero
  intro none
  rw [Decimal.value, none, Nat.cast_zero, zero_mul, zero_div] at least
  linarith

end Search

/-- **An integer in the interval of a number reads back as that number.** -/
theorem ofInt_of_holds {mantissa : Nat} {exponent : Int} (canonical : Canonical mantissa exponent)
    (nonzero : mantissa ≠ 0) (negative : Bool) {n : Nat} (positive : 0 < n)
    (holds : (neighbourhood mantissa exponent).Holds n) :
    ofInt (signed negative n) = .finite negative mantissa exponent canonical := by
  have fraction : (neighbourhood mantissa exponent).Holds ((n : ℚ) / (1 : Nat)) := by
    rwa [Nat.cast_one, div_one]
  have read := ofRatio_of_holds canonical nonzero negative Nat.one_pos fraction
  have below : decide (signed negative n < 0) = negative := by
    cases negative with
    | false => simp [signed]
    | true => simpa [signed] using positive
  have size : (signed negative n).natAbs = n := by cases negative <;> simp [signed]
  rw [ofInt, below, size, read]

end SchemaSource.Double
