import Mathlib.Data.Int.Log
import Mathlib.Data.Rat.Floor
import Mathlib.Tactic.FieldSimp
import Mathlib.Tactic.Linarith
import Mathlib.Tactic.Positivity
import SchemaSource.Double.Shortest
/-!
Rounding to doubles. A fraction in the interval around a double rounds to it, whether it lies in the
middle of that interval or, where that counts, on one of its ends.
-/
namespace SchemaSource.Double

/-! ## Powers with either sign -/

/-- A power, as a fraction of two powers of which one is trivial. -/
theorem pow_toNat_div (base : Nat) (positive : 0 < base) (k : Int) :
    ((base ^ k.toNat : Nat) : ℚ) / (base ^ (-k).toNat : Nat) = (base : ℚ) ^ k := by
  have nonzero : (base : ℚ) ≠ 0 := by positivity
  rw [Nat.cast_pow, Nat.cast_pow, ← zpow_natCast, ← zpow_natCast, ← zpow_sub₀ nonzero]
  congr 1
  omega

/-- A fraction whose terms are shifted against each other. -/
theorem shifted_div (base : Nat) (positive : 0 < base) (a b : Nat) (k : Int) :
    ((a * base ^ k.toNat : Nat) : ℚ) / (b * base ^ (-k).toNat : Nat) = a / b * (base : ℚ) ^ k := by
  rw [← pow_toNat_div base positive, Nat.cast_mul, Nat.cast_mul, mul_div_mul_comm]

theorem shifted_div_neg (base : Nat) (positive : 0 < base) (a b : Nat) (k : Int) :
    ((a * base ^ (-k).toNat : Nat) : ℚ) / (b * base ^ k.toNat : Nat) = a / b / base ^ k := by
  have shifted := shifted_div base positive a b (-k)
  rwa [neg_neg, zpow_neg, ← div_eq_mul_inv] at shifted

/-! ## The parts of a fraction -/

section Parts

variable (numerator : Nat) {denominator : Nat} (positive : 0 < denominator)
include positive

theorem div_eq_parts : (numerator : ℚ) / denominator =
    (numerator / denominator : Nat) + ((numerator % denominator : Nat) : ℚ) / denominator := by
  have rational : (denominator : ℚ) ≠ 0 := by positivity
  have size : ((numerator / denominator : Nat) : ℚ) * denominator +
      (numerator % denominator : Nat) = numerator := by
    exact_mod_cast Nat.div_add_mod' numerator denominator
  rw [← size]
  field_simp

theorem part_lt_half_iff :
    (numerator : ℚ) / denominator < 1 / 2 ↔ 2 * numerator < denominator := by
  have rational : (0 : ℚ) < denominator := by exact_mod_cast positive
  rw [div_lt_div_iff₀ rational two_pos, one_mul, mul_comm]
  exact_mod_cast Iff.rfl

theorem half_lt_part_iff :
    (1 : ℚ) / 2 < numerator / denominator ↔ denominator < 2 * numerator := by
  have rational : (0 : ℚ) < denominator := by exact_mod_cast positive
  rw [div_lt_div_iff₀ two_pos rational, one_mul, mul_comm]
  exact_mod_cast Iff.rfl

theorem part_lt_one {part : Nat} (inside : part < denominator) : (part : ℚ) / denominator < 1 := by
  have rational : (0 : ℚ) < denominator := by exact_mod_cast positive
  rw [div_lt_one rational]
  exact_mod_cast inside

end Parts

/-! ## Rounding a fraction -/

section Fraction

variable {a b : Nat} (positiveA : 0 < a) (positiveB : 0 < b)
include positiveA positiveB

/-- The lengths of its terms settle how large a fraction is but for one step. -/
theorem log_fraction_bounds :
    (a.log2 : Int) - b.log2 - 1 ≤ Int.log 2 ((a : ℚ) / b) ∧
      Int.log 2 ((a : ℚ) / b) ≤ (a.log2 : Int) - b.log2 := by
  have rationalA : (0 : ℚ) < a := by exact_mod_cast positiveA
  have rationalB : (0 : ℚ) < b := by exact_mod_cast positiveB
  have lowA : (2 : ℚ) ^ (a.log2 : Int) ≤ a := by
    exact_mod_cast Nat.log2_self_le (Nat.ne_of_gt positiveA)
  have highA : (a : ℚ) < 2 ^ ((a.log2 : Int) + 1) := by
    exact_mod_cast Nat.lt_log2_self (n := a)
  have lowB : (2 : ℚ) ^ (b.log2 : Int) ≤ b := by
    exact_mod_cast Nat.log2_self_le (Nat.ne_of_gt positiveB)
  have highB : (b : ℚ) < 2 ^ ((b.log2 : Int) + 1) := by
    exact_mod_cast Nat.lt_log2_self (n := b)
  have positive : (0 : ℚ) < a / b := div_pos rationalA rationalB
  constructor
  · rw [← Int.zpow_le_iff_le_log (by decide) positive, le_div_iff₀ rationalB]
    calc (2 : ℚ) ^ ((a.log2 : Int) - b.log2 - 1) * b
        ≤ 2 ^ ((a.log2 : Int) - b.log2 - 1) * 2 ^ ((b.log2 : Int) + 1) :=
          mul_le_mul_of_nonneg_left highB.le (zpow_pos (by norm_num) _).le
      _ = 2 ^ (a.log2 : Int) := by
          rw [← zpow_add₀ two_ne_zero]
          congr 1
          omega
      _ ≤ a := lowA
  · rw [← Int.lt_add_one_iff, ← Int.lt_zpow_iff_log_lt (by decide) positive, div_lt_iff₀ rationalB]
    calc (a : ℚ) < 2 ^ ((a.log2 : Int) + 1) := highA
      _ = 2 ^ ((a.log2 : Int) - b.log2 + 1) * 2 ^ (b.log2 : Int) := by
          rw [← zpow_add₀ two_ne_zero]
          congr 1
          omega
      _ ≤ 2 ^ ((a.log2 : Int) - b.log2 + 1) * b :=
          mul_le_mul_of_nonneg_left lowB (zpow_pos (by norm_num) _).le

/-- The exponent at which a fraction has a 53 bit integer part, by its size alone. -/
theorem unitExponent_eq :
    unitExponent a b = max (Int.log 2 ((a : ℚ) / b) - 52) (-1074) := by
  have positive : (0 : ℚ) < a / b := by
    have rationalA : (0 : ℚ) < a := by exact_mod_cast positiveA
    have rationalB : (0 : ℚ) < b := by exact_mod_cast positiveB
    exact div_pos rationalA rationalB
  obtain ⟨low, high⟩ := log_fraction_bounds positiveA positiveB
  rw [unitExponent]
  generalize (a.log2 : Int) - b.log2 = bits at low high ⊢
  have test : a * 2 ^ (-bits).toNat < b * 2 ^ bits.toNat ↔ Int.log 2 ((a : ℚ) / b) < bits := by
    have shift : (0 : ℚ) < (2 ^ (-bits).toNat : Nat) := by positivity
    have rationalB : (0 : ℚ) < b := by exact_mod_cast positiveB
    have power := pow_toNat_div 2 (by decide) bits
    rw [Nat.cast_ofNat] at power
    rw [← Int.lt_zpow_iff_log_lt (by decide) positive, Nat.cast_ofNat, ← power,
      div_lt_div_iff₀ rationalB shift, ← Nat.cast_mul, ← Nat.cast_mul, Nat.cast_lt, Nat.mul_comm b]
  simp only [test]
  split <;> omega

end Fraction

/-- No other integer is nearer to a fraction, and in the middle between two integers this one is
even. -/
def IsNearest (nearest : Nat) (x : ℚ) : Prop :=
  if nearest % 2 = 0 then nearest - 1 / 2 ≤ x ∧ x ≤ nearest + 1 / 2
  else nearest - 1 / 2 < x ∧ x < nearest + 1 / 2

theorem IsNearest.bounds {nearest : Nat} {x : ℚ} (near : IsNearest nearest x) :
    nearest - 1 / 2 ≤ x ∧ x ≤ nearest + 1 / 2 := by
  unfold IsNearest at near
  split at near
  · exact near
  · exact ⟨near.1.le, near.2.le⟩

theorem roundDiv_eq {nearest numerator denominator : Nat} (positive : 0 < denominator)
    (near : IsNearest nearest ((numerator : ℚ) / denominator)) :
    roundDiv numerator denominator = nearest := by
  have fraction := div_eq_parts numerator positive
  have proper := part_lt_one positive (Nat.mod_lt numerator positive)
  have half := part_lt_half_iff (numerator % denominator) positive
  have most := half_lt_part_iff (numerator % denominator) positive
  rw [roundDiv]
  generalize numerator / denominator = quotient at fraction ⊢
  generalize numerator % denominator = remainder at fraction proper half most ⊢
  have nonnegative : (0 : ℚ) ≤ remainder / denominator := by positivity
  rw [fraction] at near
  obtain ⟨least, greatest⟩ := near.bounds
  have choices : nearest = quotient ∨ nearest = quotient + 1 := by
    have atLeast : (quotient : ℚ) < nearest + 1 := by linarith
    have atMost : (nearest : ℚ) < quotient + 2 := by linarith
    have atLeast : quotient < nearest + 1 := by exact_mod_cast atLeast
    have atMost : nearest < quotient + 2 := by exact_mod_cast atMost
    omega
  unfold IsNearest at near
  rcases choices with rfl | rfl
  · have notMore : ¬denominator < 2 * remainder := by
      rw [← most]
      linarith
    by_cases less : 2 * remainder < denominator
    · simp only [if_pos less]
    · have even : nearest % 2 = 0 := by
        by_contra odd
        rw [if_neg odd] at near
        exact less (half.mp (by linarith))
      simp only [if_neg less, if_neg notMore, if_pos even]
  · have notLess : ¬2 * remainder < denominator := by
      rw [← half]
      push_cast at least
      linarith
    by_cases more : denominator < 2 * remainder
    · simp only [if_neg notLess, if_pos more]
    · have odd : ¬quotient % 2 = 0 := by
        intro even
        rw [if_neg (by omega)] at near
        push_cast at near
        exact more (most.mp (by linarith))
      simp only [if_neg notLess, if_neg more, if_neg odd]

/-! ## Intervals -/

/-- A fraction lies in the interval. -/
def Neighbourhood.Holds (n : Neighbourhood) (x : ℚ) : Prop :=
  if n.closed then n.low / n.denominator ≤ x ∧ x ≤ n.high / n.denominator
  else n.low / n.denominator < x ∧ x < n.high / n.denominator

/-- How much of the gap to the neighbour below belongs to a number: half of it, which is a quarter
of the gap above for a power of two. -/
def gapBelow (mantissa : Nat) (exponent : Int) : ℚ :=
  if mantissa = 2 ^ 52 ∧ exponent ≠ -1074 then 1 / 4 else 1 / 2

section Neighbourhood

variable {mantissa : Nat} {exponent : Int}

theorem high_div : ((neighbourhood mantissa exponent).high : ℚ) /
    (neighbourhood mantissa exponent).denominator = (mantissa + 1 / 2) * 2 ^ exponent := by
  simp only [neighbourhood]
  rw [shifted_div 2 (by decide)]
  push_cast
  ring

theorem low_div (some : mantissa ≠ 0) : ((neighbourhood mantissa exponent).low : ℚ) /
    (neighbourhood mantissa exponent).denominator =
      (mantissa - gapBelow mantissa exponent) * 2 ^ exponent := by
  simp only [neighbourhood]
  rw [shifted_div 2 (by decide), gapBelow]
  split
  · rw [Nat.cast_sub (by omega)]
    push_cast
    ring
  · rw [Nat.cast_sub (by omega)]
    push_cast
    ring

theorem value_div : ((neighbourhood mantissa exponent).value : ℚ) /
    (neighbourhood mantissa exponent).denominator = mantissa * 2 ^ exponent := by
  simp only [neighbourhood]
  rw [shifted_div 2 (by decide)]
  push_cast
  ring

/-- The interval around a number, over its unit. -/
theorem holds_iff (some : mantissa ≠ 0) (x : ℚ) :
    (neighbourhood mantissa exponent).Holds x ↔
      if mantissa % 2 = 0 then
        mantissa - gapBelow mantissa exponent ≤ x / 2 ^ exponent ∧
          x / 2 ^ exponent ≤ mantissa + 1 / 2
      else
        mantissa - gapBelow mantissa exponent < x / 2 ^ exponent ∧
          x / 2 ^ exponent < mantissa + 1 / 2 := by
  have unit : (0 : ℚ) < 2 ^ exponent := zpow_pos (by norm_num) exponent
  have closed : (neighbourhood mantissa exponent).closed = decide (mantissa % 2 = 0) := rfl
  rw [Neighbourhood.Holds, low_div some, high_div, closed, le_div_iff₀ unit, div_le_iff₀ unit,
    lt_div_iff₀ unit, div_lt_iff₀ unit]
  simp only [decide_eq_true_eq]

variable (mantissa exponent) in
theorem gapBelow_le : gapBelow mantissa exponent ≤ 1 / 2 := by
  unfold gapBelow
  split <;> norm_num

variable (mantissa exponent) in
theorem gapBelow_pos : 0 < gapBelow mantissa exponent := by
  unfold gapBelow
  split <;> norm_num

/-- A number lies in its own interval. -/
theorem holds_center (some : mantissa ≠ 0) {x : ℚ} (center : x / 2 ^ exponent = mantissa) :
    (neighbourhood mantissa exponent).Holds x := by
  have gap := gapBelow_pos mantissa exponent
  rw [holds_iff some, center]
  split <;> constructor <;> linarith

/-- Seen in units of a number, the fractions in its interval are nearest to its mantissa. -/
theorem isNearest_of_holds (some : mantissa ≠ 0) {x : ℚ}
    (holds : (neighbourhood mantissa exponent).Holds x) :
    IsNearest mantissa (x / 2 ^ exponent) := by
  have gap := gapBelow_le mantissa exponent
  rw [holds_iff some] at holds
  unfold IsNearest
  by_cases even : mantissa % 2 = 0
  · rw [if_pos even] at holds ⊢
    exact ⟨by linarith [holds.1], holds.2⟩
  · rw [if_neg even] at holds ⊢
    exact ⟨by linarith [holds.1], holds.2⟩

theorem bounds_of_holds (some : mantissa ≠ 0) {x : ℚ}
    (holds : (neighbourhood mantissa exponent).Holds x) :
    mantissa - gapBelow mantissa exponent ≤ x / 2 ^ exponent ∧
      x / 2 ^ exponent ≤ mantissa + 1 / 2 := by
  rw [holds_iff some] at holds
  split at holds
  · exact holds
  · exact ⟨holds.1.le, holds.2.le⟩

end Neighbourhood

/-! ## Rounding a fraction in an interval -/

/-- A fraction is rounded at the exponent where its integer part is 53 bits long, or at the least
exponent. -/
theorem ofRatio_of_isNearest {negative : Bool} {a b nearest : Nat} {exponent : Int}
    (positiveA : 0 < a) (positiveB : 0 < b)
    (size : max (Int.log 2 ((a : ℚ) / b) - 52) (-1074) = exponent)
    (near : IsNearest nearest ((a : ℚ) / b / 2 ^ exponent)) :
    ofRatio negative a b =
      if nearest = 2 ^ 53 then ofParts negative (2 ^ 52) (exponent + 1)
      else ofParts negative nearest exponent := by
  have unit : unitExponent a b = exponent := (unitExponent_eq positiveA positiveB).trans size
  have quotient : ((a * 2 ^ (-exponent).toNat : Nat) : ℚ) / (b * 2 ^ exponent.toNat : Nat) =
      a / b / 2 ^ exponent := shifted_div_neg 2 (by decide) a b exponent
  have rounded : roundDiv (a * 2 ^ (-exponent).toNat) (b * 2 ^ exponent.toNat) = nearest := by
    refine roundDiv_eq (Nat.mul_pos positiveB (Nat.pow_pos (by decide))) ?_
    rwa [quotient]
  rw [ofRatio, if_neg (Nat.ne_of_gt positiveA)]
  simp only [unit, rounded]

section Size

variable {x : ℚ} (positive : 0 < x) (exponent : Int)
include positive

/-- A fraction is small in units that its integer part in them says. -/
theorem log_lt_of_lt (small : x / 2 ^ exponent < 2 ^ 53) : Int.log 2 x < exponent + 53 := by
  have unit : (0 : ℚ) < 2 ^ exponent := zpow_pos (by norm_num) exponent
  rw [← Int.lt_zpow_iff_log_lt (by decide) positive, Nat.cast_ofNat, add_comm,
    zpow_add₀ two_ne_zero, ← div_lt_iff₀ unit]
  exact_mod_cast small

theorem le_log_of_le (large : 2 ^ 52 ≤ x / 2 ^ exponent) : exponent + 52 ≤ Int.log 2 x := by
  have unit : (0 : ℚ) < 2 ^ exponent := zpow_pos (by norm_num) exponent
  rw [← Int.zpow_le_iff_le_log (by decide) positive, Nat.cast_ofNat, add_comm,
    zpow_add₀ two_ne_zero, ← le_div_iff₀ unit]
  exact_mod_cast large

end Size

section Interval

variable {mantissa : Nat} {exponent : Int} (canonical : Canonical mantissa exponent)
include canonical

/-- The interval of a number lies in its binade, but for the part below a power of two. -/
theorem log_of_holds {x : ℚ} (positive : 0 < x) (most : x / 2 ^ exponent ≤ mantissa + 1 / 2)
    (least : exponent ≠ -1074 → 2 ^ 52 ≤ x / 2 ^ exponent) :
    max (Int.log 2 x - 52) (-1074) = exponent := by
  obtain ⟨short, atLeast, -, -⟩ := canonical
  have short : (mantissa : ℚ) + 1 ≤ 2 ^ 53 := by exact_mod_cast short
  have above := log_lt_of_lt positive exponent (by linarith)
  by_cases lowest : exponent = -1074
  · omega
  · have below := le_log_of_le positive exponent (least lowest)
    omega

/-- **Rounding finds the number of an interval.** -/
theorem ofRatio_of_holds (some : mantissa ≠ 0) (negative : Bool) {a b : Nat} (positiveB : 0 < b)
    (holds : (neighbourhood mantissa exponent).Holds ((a : ℚ) / b)) :
    ofRatio negative a b = .finite negative mantissa exponent canonical := by
  obtain ⟨least, most⟩ := bounds_of_holds some holds
  have gap := gapBelow_le mantissa exponent
  have unit : (0 : ℚ) < 2 ^ exponent := zpow_pos (by norm_num) exponent
  have one : (1 : ℚ) ≤ mantissa := by exact_mod_cast Nat.pos_of_ne_zero some
  have positive : (0 : ℚ) < a / b := by
    have units : (0 : ℚ) < a / b / 2 ^ exponent := by linarith
    exact (div_pos_iff_of_pos_right unit).mp units
  have positiveA : 0 < a := by
    have rationalB : (0 : ℚ) < b := by exact_mod_cast positiveB
    exact_mod_cast (div_pos_iff_of_pos_right rationalB).mp positive
  obtain ⟨short, atLeast, -, long⟩ := id canonical
  by_cases lower : mantissa = 2 ^ 52 ∧ exponent ≠ -1074 ∧ (a : ℚ) / b / 2 ^ exponent < 2 ^ 52
  -- Below a power of two the unit is half as large, and the mantissa is rounded up to the next
  -- power, which has the exponent of the number itself.
  · obtain ⟨rfl, higher, below⟩ := lower
    rw [gapBelow, if_pos ⟨rfl, higher⟩] at least
    push_cast at least
    have half : (a : ℚ) / b / 2 ^ (exponent - 1) = 2 * (a / b / 2 ^ exponent) := by
      rw [zpow_sub_one₀ two_ne_zero]
      field_simp
    have size : max (Int.log 2 ((a : ℚ) / b) - 52) (-1074) = exponent - 1 := by
      have above := log_lt_of_lt positive (exponent - 1) (by rw [half]; linarith)
      have enough := le_log_of_le positive (exponent - 1) (by rw [half]; linarith)
      omega
    have near : IsNearest (2 ^ 53) ((a : ℚ) / b / 2 ^ (exponent - 1)) := by
      rw [half, IsNearest, if_pos (by decide)]
      push_cast
      constructor <;> linarith
    rw [ofRatio_of_isNearest positiveA positiveB size near, if_pos rfl, ofParts,
      Int.sub_add_cancel, dif_pos canonical]
  · have size : max (Int.log 2 ((a : ℚ) / b) - 52) (-1074) = exponent := by
      refine log_of_holds canonical positive most fun higher => ?_
      by_cases shortest : mantissa = 2 ^ 52
      · exact le_of_not_gt fun below => lower ⟨shortest, higher, below⟩
      · have longer : 2 ^ 52 + 1 ≤ mantissa := by omega
        have longer : (2 : ℚ) ^ 52 + 1 ≤ mantissa := by exact_mod_cast longer
        linarith
    have near := isNearest_of_holds some holds
    rw [ofRatio_of_isNearest positiveA positiveB size near, if_neg (by omega), ofParts,
      dif_pos canonical]

end Interval

end SchemaSource.Double
