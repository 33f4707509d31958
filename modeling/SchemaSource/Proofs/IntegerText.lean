import SchemaSource.Numeral
/-!
Doubles that hold integers. Up to `2 ^ 53` such a number is written as the plain decimal of its
integer: the interval of a number holds no other integer that a coarser decimal grid could offer.
-/
namespace SchemaSource.Double

/-! ## Digits -/

theorem toDigits_mul_ten_pow (n k : Nat) (positive : 0 < n) :
    Nat.toDigits 10 (n * 10 ^ k) = Nat.toDigits 10 n ++ List.replicate k '0' := by
  induction k with
  | zero => simp
  | succ k ih =>
    have shifted : n * 10 ^ (k + 1) = 10 * (n * 10 ^ k) + 0 := by
      rw [Nat.pow_succ, Nat.add_zero, ← Nat.mul_assoc, Nat.mul_comm]
    have appended := Nat.toDigits_append_toDigits (b := 10) (n := n * 10 ^ k) (d := 0) (by decide)
      (Nat.mul_pos positive (Nat.pow_pos (by decide))) (by decide)
    rw [shifted, ← appended, ih, List.append_assoc, List.replicate_succ', Nat.toDigits_zero]

theorem digitCount_pos (n : Nat) : 0 < digitCount n := Nat.length_toDigits_pos

theorem digitCount_le_iff {n k : Nat} (positive : 0 < k) : digitCount n ≤ k ↔ n < 10 ^ k :=
  Nat.length_toDigits_le_iff (by decide) positive

theorem digitCount_mono {m n : Nat} (h : m ≤ n) : digitCount m ≤ digitCount n := by
  rw [digitCount_le_iff (digitCount_pos n)]
  have := (digitCount_le_iff (digitCount_pos n)).mp (Nat.le_refl (digitCount n))
  omega

theorem digitCount_mul_le (m n : Nat) : digitCount (m * n) ≤ digitCount m + digitCount n := by
  have hm := (digitCount_le_iff (digitCount_pos m)).mp (Nat.le_refl _)
  have hn := (digitCount_le_iff (digitCount_pos n)).mp (Nat.le_refl _)
  rw [digitCount_le_iff (Nat.add_pos_left (digitCount_pos m) _), Nat.pow_add]
  exact Nat.mul_lt_mul'' hm hn

/-! ## The search -/

/-- An interval around an integer that reaches no other. -/
structure Neighbourhood.Tight (n : Neighbourhood) (N : Nat) : Prop where
  value : n.value = N * n.denominator
  below : n.low < n.value
  above : n.value < n.high
  low : n.value ≤ n.low + 2
  high : n.high ≤ n.value + 2
  wide : 2 < n.denominator

theorem findSome?_range_of_hit {α : Type} {f : Nat → Option α} {k bound : Nat} {hit : α}
    (inside : k < bound) (found : f k = some hit) :
    ∃ j d, j ≤ k ∧ f j = some d ∧ (List.range bound).findSome? f = some d := by
  have split : List.range bound =
      List.range (k + 1) ++ (List.range (bound - (k + 1))).map (k + 1 + ·) := by
    rw [← List.range_add]
    congr 1
    omega
  have some : ((List.range (k + 1)).findSome? f).isSome := by
    rw [List.findSome?_isSome_iff]
    exact ⟨k, List.mem_range.mpr (Nat.lt_succ_self k), by simp [found]⟩
  obtain ⟨d, first⟩ := Option.isSome_iff_exists.mp some
  obtain ⟨j, member, hj⟩ := List.exists_of_findSome?_eq_some first
  have bound := List.mem_range.mp member
  refine ⟨j, d, by omega, hj, ?_⟩
  rw [split, List.findSome?_append, first]
  rfl

/-- A grid that offers a decimal ends the search, if no coarser one did. -/
theorem Neighbourhood.shortest_of_offer {n : Neighbourhood} {tie : Tie} {k : Nat} {last : Decimal}
    (inside : k < 17) (offered : n.onGrid? tie (n.decade - (k : Nat)) = some last) :
    ∃ j d, j ≤ k ∧ n.onGrid? tie (n.decade - (j : Nat)) = some d ∧ n.shortest tie = d.trim := by
  obtain ⟨j, d, before, found, search⟩ := findSome?_range_of_hit
    (f := fun k => n.onGrid? tie (n.decade - (k : Nat))) inside offered
  refine ⟨j, d, before, found, ?_⟩
  -- The definition is unfolded by hand, since its equation would run through all seventeen grids.
  delta Neighbourhood.shortest
  rw [search]

namespace Neighbourhood.Tight

variable {n : Neighbourhood} {N : Nat}

/-- Of the decimals without a fraction only the integer itself lies in the interval. -/
theorem eq_of_contains (h : n.Tight N) {d : Decimal} (x : Nat) (hx : d.exponent = x)
    (inside : n.contains d = true) : d.digits * 10 ^ x = N := by
  have bounds : n.low ≤ d.digits * 10 ^ x * n.denominator ∧
      d.digits * 10 ^ x * n.denominator ≤ n.high := by
    have noFraction : (-(x : Int)).toNat = 0 := by omega
    simp only [Neighbourhood.contains, hx, Int.toNat_natCast, noFraction, Nat.pow_zero,
      Nat.mul_one] at inside
    split at inside <;>
      simp only [Bool.and_eq_true, decide_eq_true_eq] at inside <;> omega
  obtain ⟨lo, hi⟩ := bounds
  have value := h.value
  have lower := h.low
  have upper := h.high
  have wide := h.wide
  generalize d.digits * 10 ^ x = P at lo hi ⊢
  rcases Nat.lt_trichotomy P N with less | same | more
  · have := Nat.mul_le_mul_right n.denominator (Nat.succ_le_of_lt less)
    rw [Nat.succ_mul] at this
    omega
  · exact same
  · have := Nat.mul_le_mul_right n.denominator (Nat.succ_le_of_lt more)
    rw [Nat.succ_mul] at this
    omega

theorem contains_self (h : n.Tight N) : n.contains ⟨N, 0⟩ = true := by
  have value := h.value
  have below := h.below
  have above := h.above
  simp only [Neighbourhood.contains, Int.neg_zero, Int.toNat_zero, Nat.pow_zero, Nat.mul_one]
  split <;> simp only [Bool.and_eq_true, decide_eq_true_eq] <;> omega

theorem chosen {nearer farther d : Decimal}
    (found : (if n.contains nearer then some nearer
      else if n.contains farther then some farther else none) = some d) :
    (d = nearer ∨ d = farther) ∧ n.contains d = true := by
  split at found
  · cases found
    exact ⟨.inl rfl, ‹_›⟩
  · split at found
    · cases found
      exact ⟨.inr rfl, ‹_›⟩
    · cases found

/-- Whatever a grid without fractions offers is the integer. -/
theorem eq_of_onGrid? (h : n.Tight N) {tie : Tie} {x : Nat} {d : Decimal}
    (found : n.onGrid? tie x = some d) : d.exponent = x ∧ d.digits * 10 ^ x = N := by
  have candidate : d.exponent = x ∧ n.contains d = true := by
    simp only [Neighbourhood.onGrid?] at found
    split at found
    · obtain ⟨rfl | rfl, inside⟩ := chosen found <;> exact ⟨rfl, inside⟩
    · obtain ⟨rfl | rfl, inside⟩ := chosen found <;> exact ⟨rfl, inside⟩
  exact ⟨candidate.1, h.eq_of_contains x candidate.1 candidate.2⟩

theorem onGrid?_zero (h : n.Tight N) (tie : Tie) : n.onGrid? tie 0 = some ⟨N, 0⟩ := by
  have wide := h.wide
  have self := h.contains_self
  have quotient : n.value / n.denominator = N := by
    rw [h.value, Nat.mul_div_cancel _ (by omega)]
  have remainder : n.value % n.denominator = 0 := by
    rw [h.value, Nat.mul_mod_left]
  have nonzero : ¬ 0 = n.denominator := by omega
  simp [Neighbourhood.onGrid?, quotient, remainder, self, nonzero]

/-- The first decade lies where one of the seventeen grids has no fraction. -/
theorem decade_bounds (h : n.Tight N) (positive : 0 < N) (small : N < 10 ^ 16) :
    0 ≤ n.decade ∧ n.decade ≤ 16 := by
  have wide := h.wide
  have atLeast : digitCount n.denominator ≤ digitCount n.value := by
    apply digitCount_mono
    rw [h.value]
    exact Nat.le_mul_of_pos_left _ positive
  have atMost : digitCount n.value ≤ 16 + digitCount n.denominator := by
    have := digitCount_mul_le N n.denominator
    have := (digitCount_le_iff (n := N) (k := 16) (by decide)).mpr small
    rw [h.value]
    omega
  have reaches : n.denominator ≤ n.value := by
    rw [h.value]
    exact Nat.le_mul_of_pos_left _ positive
  unfold Neighbourhood.decade
  by_cases same : digitCount n.value = digitCount n.denominator
  · simp [same, reaches]
  · simp only
    split <;> omega

/-- The search ends with a decimal of the integer, which has no fraction. -/
theorem shortest_eq (h : n.Tight N) (positive : 0 < N) (small : N < 10 ^ 16) (tie : Tie) :
    ∃ digits x : Nat, digits * 10 ^ x = N ∧ n.shortest tie = Decimal.trim ⟨digits, x⟩ := by
  obtain ⟨lo, hi⟩ := h.decade_bounds positive small
  have last : n.onGrid? tie (n.decade - (n.decade.toNat : Nat)) = some ⟨N, 0⟩ := by
    have zero : n.decade - (n.decade.toNat : Nat) = 0 := by omega
    rw [zero]
    exact h.onGrid?_zero tie
  have near : n.decade.toNat < 17 := by omega
  obtain ⟨j, d, before, offered, search⟩ := shortest_of_offer near last
  have grid : n.decade - (j : Nat) = ((n.decade.toNat - j : Nat) : Int) := by omega
  rw [grid] at offered
  obtain ⟨exponent, digits⟩ := h.eq_of_onGrid? offered
  refine ⟨d.digits, n.decade.toNat - j, digits, ?_⟩
  rw [search, ← exponent]

end Neighbourhood.Tight

/-! ## The text -/

/-- Moving final zeros into the exponent keeps the integer. -/
theorem Decimal.trim_integer (digits x : Nat) (positive : 0 < digits) :
    ∃ digits' x' : Nat, 0 < digits' ∧ digits' * 10 ^ x' = digits * 10 ^ x ∧
      Decimal.trim ⟨digits, x⟩ = ⟨digits', x'⟩ := by
  induction digits using Nat.strongRecOn generalizing x with
  | ind digits ih =>
    rw [Decimal.trim]
    split
    · rename_i more
      obtain ⟨nonzero, tenfold⟩ : digits ≠ 0 ∧ digits % 10 = 0 := more
      obtain ⟨digits', x', positive', value, trimmed⟩ :=
        ih (digits / 10) (by omega) (x + 1) (by omega)
      refine ⟨digits', x', positive', ?_, trimmed⟩
      have tens : digits / 10 * 10 = digits := by omega
      rw [value, Nat.pow_succ, Nat.mul_comm (10 ^ x), ← Nat.mul_assoc, tens]
    · exact ⟨digits, x, positive, rfl, rfl⟩

theorem digitCount_mul_ten_pow (n k : Nat) (positive : 0 < n) :
    digitCount (n * 10 ^ k) = digitCount n + k := by
  simp [digitCount, toDigits_mul_ten_pow n k positive]

/-- A decimal of an integer of at most twenty-one digits is written in full. -/
theorem write_integer (digits x : Nat) (positive : 0 < digits) (small : digits * 10 ^ x < 10 ^ 21) :
    Spelling.source.write ⟨digits, x⟩ = toString (digits * 10 ^ x) := by
  have count := (digitCount_le_iff (k := 21) (by decide)).mpr small
  rw [digitCount_mul_ten_pow digits x positive] at count
  have some := digitCount_pos digits
  have inRange : Spelling.source.least ≤ (x : Int) + digitCount digits - 1 ∧
      (x : Int) + digitCount digits - 1 ≤ Spelling.source.greatest := by
    simp only [Spelling.source]
    omega
  rw [Spelling.write, if_pos inRange, Nat.toString_eq_repr, Nat.repr_eq_ofList_toDigits,
    toDigits_mul_ten_pow digits x positive, String.ofList_append]
  simp [positional, zeros, Spelling.source]

/-- A number without a fraction is a natural number with a sign. -/
theorem integer?_eq_some {negative : Bool} {mantissa : Nat} {exponent : Int}
    {canonical : Canonical mantissa exponent} {k : Int}
    (h : (Double.finite negative mantissa exponent canonical).integer? = some k) :
    ∃ N : Nat, N * 2 ^ (-exponent).toNat = mantissa * 2 ^ exponent.toNat ∧
      k = if negative then -(N : Int) else N := by
  simp only [integer?] at h
  split at h
  · rename_i whole
    refine ⟨mantissa * 2 ^ exponent.toNat / 2 ^ (-exponent).toNat, ?_, ?_⟩
    · apply Nat.div_mul_cancel
      exact Nat.dvd_mul_right_of_dvd (Nat.dvd_of_mod_eq_zero whole) _
    · simp only [Option.some.injEq] at h
      rw [← h]
  · cases h

/-- At exponents that are not positive the interval of an integer reaches no other. -/
theorem neighbourhood_tight {mantissa N : Nat} {exponent : Int} (small : exponent ≤ 0)
    (positive : 0 < mantissa) (value : N * 2 ^ (-exponent).toNat = mantissa) :
    (neighbourhood mantissa exponent).Tight N := by
  have unit : exponent.toNat = 0 := by omega
  have room : 0 < 2 ^ (-exponent).toNat := Nat.pow_pos (by decide)
  constructor <;> simp only [neighbourhood, unit, Nat.pow_zero, Nat.mul_one]
  · rw [← value]
    simp only [Nat.mul_left_comm]
  · split <;> omega
  · omega
  · split <;> omega
  · omega
  · omega

theorem exponent_of_small {mantissa N : Nat} {exponent : Int}
    (canonical : Canonical mantissa exponent) (small : N ≤ 2 ^ 53) (positive : 0 < exponent)
    (value : N * 2 ^ (-exponent).toNat = mantissa * 2 ^ exponent.toNat) :
    mantissa = 2 ^ 52 ∧ exponent = 1 := by
  obtain ⟨-, -, -, long⟩ := canonical
  have long : 2 ^ 52 ≤ mantissa := by omega
  have zero : (-exponent).toNat = 0 := by omega
  rw [zero, Nat.pow_zero, Nat.mul_one] at value
  have one : exponent.toNat = 1 := by
    rcases Nat.lt_or_ge exponent.toNat 2 with less | more
    · omega
    · have : 2 ^ 2 ≤ 2 ^ exponent.toNat := Nat.pow_le_pow_right (by decide) more
      have := Nat.mul_le_mul long this
      omega
  rw [one] at value
  omega

/-- The one number up to `2 ^ 53` with a positive exponent, whose interval reaches a second
integer. -/
theorem shortest_two_pow (tie : Tie) : shortest (2 ^ 52) 1 tie = ⟨9007199254740992, 0⟩ := by
  have found : (neighbourhood (2 ^ 52) 1).shortest tie =
      Decimal.trim ⟨9007199254740992, 0⟩ := by
    cases tie <;> rfl
  rw [shortest, if_neg (by decide), found, Decimal.trim]
  rfl

theorem write_shortest {mantissa N : Nat} {exponent : Int} (canonical : Canonical mantissa exponent)
    (nonzero : mantissa ≠ 0) (positive : 0 < N) (bound : N ≤ 2 ^ 53)
    (value : N * 2 ^ (-exponent).toNat = mantissa * 2 ^ exponent.toNat) :
    Spelling.source.write (shortest mantissa exponent Spelling.source.tie) = toString N := by
  by_cases small : exponent ≤ 0
  · have unit : exponent.toNat = 0 := by omega
    rw [unit, Nat.pow_zero, Nat.mul_one] at value
    have tight := neighbourhood_tight small (Nat.pos_of_ne_zero nonzero) value
    obtain ⟨digits, places, same, search⟩ :=
      tight.shortest_eq positive (by omega) Spelling.source.tie
    have some : 0 < digits := Nat.pos_of_mul_pos_right (by omega : 0 < digits * 10 ^ places)
    obtain ⟨digits', places', some', same', trimmed⟩ := Decimal.trim_integer digits places some
    rw [shortest, if_neg nonzero, search, trimmed, write_integer _ _ some' (by omega), same', same]
  · obtain ⟨rfl, rfl⟩ := exponent_of_small canonical bound (by omega) value
    have two : N = 9007199254740992 := by simpa using value
    rw [shortest_two_pow, two]
    exact write_integer 9007199254740992 0 (by decide) (by decide)

theorem toString_ofNat (n : Nat) : toString (n : Int) = toString n := by
  rw [Int.toString_eq_repr, Int.repr_eq_if, if_pos (by omega), Int.toNat_natCast,
    Nat.toString_eq_repr]

theorem toString_neg (n : Nat) (positive : 0 < n) : toString (-(n : Int)) = "-" ++ toString n := by
  rw [Int.toString_eq_repr, Int.repr_eq_if, if_neg (by omega), Int.neg_neg, Int.toNat_natCast,
    Nat.toString_eq_repr]

theorem isFinite_of_integer? {x : Double} {k : Int} (integer : x.integer? = some k) :
    x.isFinite = true := by
  cases x with
  | finite negative mantissa exponent canonical => rfl
  | nan | infinite negative => cases integer

/-- A natural number with a sign. -/
def signed (negative : Bool) (n : Nat) : Int := if negative then -n else n

theorem toString_signed (negative : Bool) {n : Nat} (positive : 0 < n) :
    toString (signed negative n) = (if negative then "-" else "") ++ toString n := by
  cases negative with
  | false => exact (toString_ofNat n).trans String.empty_append.symm
  | true => exact toString_neg n positive

/-- **Integers are written plainly.** A double that holds an integer of at most `2 ^ 53` in size
has the decimal of that integer for its text. -/
theorem text_eq_toString {x : Double} {k : Int} (h : x.integer? = some k)
    (small : k.natAbs ≤ 2 ^ 53) : x.text = toString k := by
  cases x with
  | nan => cases h
  | infinite negative => cases h
  | finite negative mantissa exponent canonical =>
    obtain ⟨N, value, rfl⟩ := integer?_eq_some h
    have room : 0 < 2 ^ (-exponent).toNat := Nat.pow_pos (by decide)
    have scale : 0 < 2 ^ exponent.toNat := Nat.pow_pos (by decide)
    by_cases zero : mantissa = 0
    · have none : N = 0 := by
        rw [zero, Nat.zero_mul] at value
        exact (Nat.mul_eq_zero.mp value).resolve_right (by omega)
      cases negative <;> simp [text, zero, none] <;> rfl
    · have positive : 0 < N := by
        apply Nat.pos_of_ne_zero
        intro none
        rw [none, Nat.zero_mul] at value
        have := Nat.mul_pos (Nat.pos_of_ne_zero zero) scale
        omega
      have bound : N ≤ 2 ^ 53 := by
        cases negative <;> simp at small <;> omega
      have digits := write_shortest canonical zero positive bound value
      rw [text, if_neg zero, digits]
      exact (toString_signed negative positive).symm

/-! ## Integers as doubles -/

theorem roundDiv_one (n : Nat) : roundDiv n 1 = n := by
  simp [roundDiv, Nat.mod_one]

/-- An integer below `2 ^ 53` fills a mantissa by shifting alone. -/
theorem ofRatio_small (negative : Bool) {N : Nat} (positive : 0 < N) (small : N < 2 ^ 53) :
    ∃ canonical, ofRatio negative N 1 =
      .finite negative (N * 2 ^ (52 - N.log2)) (-((52 - N.log2 : Nat) : Int)) canonical := by
  have lo : 2 ^ N.log2 ≤ N := Nat.log2_self_le (by omega)
  have hi : N < 2 ^ (N.log2 + 1) := Nat.lt_log2_self
  have bits : N.log2 ≤ 52 := by
    have := (Nat.pow_lt_pow_iff_right (a := 2) (by decide)).mp (Nat.lt_of_le_of_lt lo small)
    omega
  have exponent : unitExponent N 1 = -((52 - N.log2 : Nat) : Int) := by
    have noShift : (-(N.log2 : Int)).toNat = 0 := by omega
    have enough : ¬ N * 2 ^ 0 < 1 * 2 ^ N.log2 := by omega
    have one : Nat.log2 1 = 0 := rfl
    simp only [unitExponent, one, Int.ofNat_zero, Int.sub_zero, noShift, Int.toNat_natCast,
      if_neg enough]
    omega
  have bottom : 2 ^ 52 ≤ N * 2 ^ (52 - N.log2) := by
    calc 2 ^ 52 = 2 ^ N.log2 * 2 ^ (52 - N.log2) := by rw [← Nat.pow_add]; congr 1; omega
      _ ≤ _ := Nat.mul_le_mul_right _ lo
  have top : N * 2 ^ (52 - N.log2) < 2 ^ 53 := by
    calc N * 2 ^ (52 - N.log2)
        < 2 ^ (N.log2 + 1) * 2 ^ (52 - N.log2) :=
          Nat.mul_lt_mul_of_pos_right hi (Nat.pow_pos (by decide))
      _ = 2 ^ 53 := by rw [← Nat.pow_add]; congr 1; omega
  have canonical : Canonical (N * 2 ^ (52 - N.log2)) (-((52 - N.log2 : Nat) : Int)) :=
    ⟨top, by omega, by omega, .inl bottom⟩
  have shift : (- -((52 - N.log2 : Nat) : Int)).toNat = 52 - N.log2 := by omega
  have noShift : (-((52 - N.log2 : Nat) : Int)).toNat = 0 := by omega
  refine ⟨canonical, ?_⟩
  simp only [ofRatio, exponent, shift, noShift, Nat.pow_zero, Nat.mul_one, roundDiv_one,
    if_neg (Nat.ne_of_gt positive), if_neg (Nat.ne_of_lt top), ofParts, dif_pos canonical]

/-- An integer below `2 ^ 53` comes back from its double. -/
theorem integer?_ofInt {k : Int} (small : k.natAbs < 2 ^ 53) : (ofInt k).integer? = some k := by
  by_cases zero : k = 0
  · simp [zero, ofInt, ofRatio, Double.zero, integer?, -Nat.reducePow]
  · obtain ⟨canonical, shape⟩ := ofRatio_small (decide (k < 0)) (N := k.natAbs) (by omega) small
    have noShift : (-((52 - k.natAbs.log2 : Nat) : Int)).toNat = 0 := by omega
    have shift : (- -((52 - k.natAbs.log2 : Nat) : Int)).toNat = 52 - k.natAbs.log2 := by omega
    have room : 0 < 2 ^ (52 - k.natAbs.log2) := Nat.pow_pos (by decide)
    rw [ofInt, shape]
    simp only [integer?, noShift, shift, Nat.mul_mod_left, ↓reduceIte, Nat.pow_zero, Nat.mul_one,
      Nat.mul_div_cancel _ room, decide_eq_true_eq]
    split <;> simp only [Option.some.injEq] <;> omega

theorem text_ofInt {k : Int} (small : k.natAbs < 2 ^ 53) : (ofInt k).text = toString k :=
  text_eq_toString (integer?_ofInt small) (Nat.le_of_lt small)

end SchemaSource.Double
