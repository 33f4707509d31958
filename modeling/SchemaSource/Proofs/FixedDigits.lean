import SchemaSource.Instant
/-!
Digits of a fixed width. Of two numbers that fit, the smaller one has the digits that come first.
-/
namespace SchemaSource

/-- So many digits of a number, the last ones if it has more. -/
def fixedDigits : Nat → Nat → List Char
  | 0, _ => []
  | width + 1, n => fixedDigits width (n / 10) ++ [Nat.digitChar (n % 10)]

theorem fixedDigits_zero (width : Nat) : fixedDigits width 0 = List.replicate width '0' := by
  induction width with
  | zero => rfl
  | succ width ih =>
    rw [fixedDigits, Nat.zero_div, ih, List.replicate_succ']
    rfl

theorem replicate_toDigits {width n : Nat} (some : 0 < width) (fits : n < 10 ^ width) :
    List.replicate (width - (Nat.toDigits 10 n).length) '0' ++ Nat.toDigits 10 n =
      fixedDigits width n := by
  induction width generalizing n with
  | zero => cases some
  | succ width ih =>
    rcases Nat.lt_or_ge n 10 with small | large
    · have zero : n / 10 = 0 := by omega
      have last : n % 10 = n := by omega
      rw [Nat.toDigits_of_lt_base small, fixedDigits, zero, last, fixedDigits_zero]
      rfl
    · have higher : n / 10 < 10 ^ width := by
        rw [Nat.pow_succ] at fits
        omega
      have wide : 0 < width := by
        apply Nat.pos_of_ne_zero
        rintro rfl
        omega
      rw [Nat.toDigits_of_base_le (by decide) large, List.length_append, List.length_singleton,
        Nat.add_sub_add_right, ← List.append_assoc, ih wide higher, fixedDigits]

theorem toList_padded {width n : Nat} (some : 0 < width) (fits : n < 10 ^ width) :
    (Instant.padded width n).toList = fixedDigits width n := by
  rw [Instant.padded, String.toList_ofList, replicate_toDigits some fits]

theorem length_fixedDigits (width n : Nat) : (fixedDigits width n).length = width := by
  induction width generalizing n with
  | zero => rfl
  | succ width ih => rw [fixedDigits, List.length_append, ih, List.length_singleton]

theorem isDigit_digitChar {n : Nat} (small : n < 10) :
    (Nat.digitChar n).isDigit = true ∧ (Nat.digitChar n).toNat - '0'.toNat = n := by
  have each : ∀ n < 10,
      (Nat.digitChar n).isDigit = true ∧ (Nat.digitChar n).toNat - '0'.toNat = n := by decide
  exact each n small

theorem isDigit_fixedDigits (width n : Nat) : ∀ c ∈ fixedDigits width n, c.isDigit = true := by
  induction width generalizing n with
  | zero => exact nofun
  | succ width ih =>
    intro c member
    rcases List.mem_append.mp member with earlier | last
    · exact ih (n / 10) c earlier
    · rw [List.mem_singleton.mp last]
      exact (isDigit_digitChar (Nat.mod_lt n (by decide))).1

theorem foldl_fixedDigits {width n : Nat} (fits : n < 10 ^ width) :
    (fixedDigits width n).foldl (fun n c => n * 10 + (c.toNat - '0'.toNat)) 0 = n := by
  induction width generalizing n with
  | zero =>
    rw [Nat.pow_zero] at fits
    exact (Nat.lt_one_iff.mp fits).symm
  | succ width ih =>
    have higher : n / 10 < 10 ^ width := by
      rw [Nat.pow_succ] at fits
      omega
    have last := (isDigit_digitChar (Nat.mod_lt n (by decide : 0 < 10))).2
    rw [fixedDigits, List.foldl_append, ih higher, List.foldl_cons, List.foldl_nil, last]
    omega

theorem append_mark_lt {p r s : List Char} {mark : Char} (less : r < s) :
    p ++ mark :: r < p ++ mark :: s :=
  List.append_left_lt (List.cons_lt_cons_iff.mpr (.inr ⟨rfl, less⟩))

/-- The digits of a smaller number come first, whatever follows. -/
theorem fixedDigits_lt {width m n : Nat} (fits : n < 10 ^ width) (less : m < n)
    (rest rest' : List Char) : fixedDigits width m ++ rest < fixedDigits width n ++ rest' := by
  induction width generalizing m n rest rest' with
  | zero =>
    rw [Nat.pow_zero] at fits
    omega
  | succ width ih =>
    have digits : ∀ b < 10, ∀ a < b, Nat.digitChar a < Nat.digitChar b := by decide
    have higher : n / 10 < 10 ^ width := by
      rw [Nat.pow_succ] at fits
      omega
    rw [fixedDigits, fixedDigits, List.append_assoc, List.append_assoc]
    have highest : m / 10 ≤ n / 10 := Nat.div_le_div_right (Nat.le_of_lt less)
    rcases Nat.lt_or_eq_of_le highest with before | same
    · exact ih higher before _ _
    · rw [same]
      apply List.append_left_lt
      exact List.cons_lt_cons_iff.mpr (.inl (digits _ (by omega) _ (by omega)))

end SchemaSource
