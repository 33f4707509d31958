import Mathlib.Data.String.Basic
/-!
The order of strings. Strings compare by their characters, one after the other; their UTF-8 bytes
compare alike, since the encoding of a smaller character is smaller where the two first differ.
-/
namespace SchemaSource.Text

/-- The UTF-8 bytes of a text. -/
def bytes (s : String) : List UInt8 := s.toUTF8.data.toList

theorem bytes_eq (s : String) : bytes s = s.toList.flatMap String.utf8EncodeChar := by
  rw [bytes, String.toUTF8_eq_toByteArray]
  conv => lhs; rw [← String.ofList_toList (s := s)]
  rw [String.toByteArray_ofList, List.utf8Encode, List.data_toByteArray]

/-- The six bit groups of a number are digits of it in the base 64. -/
theorem groups (v : Nat) : v / 4096 = v / 64 / 64 ∧ v / 262144 = v / 64 / 64 / 64 := by
  omega

theorem byte_lt_iff {m n : Nat} (hm : m < 256) (hn : n < 256) :
    UInt8.ofNat m < UInt8.ofNat n ↔ m < n := by
  rw [UInt8.lt_iff_toNat_lt, UInt8.toNat_ofNat', UInt8.toNat_ofNat']
  omega

theorem byte_eq_iff {m n : Nat} (hm : m < 256) (hn : n < 256) :
    UInt8.ofNat m = UInt8.ofNat n ↔ m = n := by
  rw [← UInt8.toNat_inj, UInt8.toNat_ofNat', UInt8.toNat_ofNat']
  omega

/-- The bytes of a smaller character come first, whatever follows. -/
theorem encodeChar_lt {c d : Char} (less : c < d) (r s : List UInt8) :
    String.utf8EncodeChar c ++ r < String.utf8EncodeChar d ++ s := by
  have smaller : c.val.toNat < d.val.toNat := UInt32.lt_iff_toNat_lt.mp less
  have bound : d.val.toNat < 1114112 := by
    rcases d.valid with low | high
    · exact Nat.lt_trans low (by decide)
    · exact high.2
  unfold String.utf8EncodeChar
  generalize c.val.toNat = v at smaller
  generalize d.val.toNat = w at smaller bound
  dsimp only
  rw [(groups v).1, (groups v).2, (groups w).1, (groups w).2]
  repeat' split
  -- What follows never decides; once it is out of the way, only arithmetic is left.
  all_goals
    by_cases rest : r < s <;>
    simp (disch := omega) only [List.cons_append, List.nil_append, List.cons_lt_cons_iff,
      byte_lt_iff, byte_eq_iff, rest, and_true, and_false, or_false] <;>
    omega

/-- Strings are ordered by their bytes. -/
theorem bytes_lt_of_lt {s t : String} (less : s < t) : bytes s < bytes t := by
  rw [bytes_eq, bytes_eq]
  have chars : s.toList < t.toList := String.lt_iff_toList_lt.mp less
  generalize s.toList = cs at chars
  generalize t.toList = ds at chars
  induction cs generalizing ds with
  | nil =>
    cases ds with
    | nil => exact absurd chars (List.lt_irrefl [])
    | cons d ds =>
      rw [List.flatMap_cons, String.utf8EncodeChar]
      repeat' split
      all_goals exact List.nil_lt_cons _ _
  | cons c cs ih =>
    cases ds with
    | nil => exact absurd chars (List.not_lt_nil _)
    | cons d ds =>
      rw [List.flatMap_cons, List.flatMap_cons]
      rcases List.cons_lt_cons_iff.mp chars with smaller | ⟨rfl, later⟩
      · exact encodeChar_lt smaller _ _
      · exact List.append_left_lt (ih _ later)

end SchemaSource.Text
