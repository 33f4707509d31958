import SchemaSource.Double.Text
import SchemaSource.Proofs.ScriptReading
import SchemaSource.Proofs.ShortestDigits
/-!
Decimal texts as literals. Each layout of the shortest digits, in their places or with a power of
ten, is one literal with the value of those digits, and the nearest number to that is the one that
was written.
-/
namespace SchemaSource.Script

/-! ## The parts of a literal -/

/-- Digits before and after the point, and the power of ten if one is written. -/
structure Parts where
  whole : List Char
  fraction : List Char
  power : Option Int

namespace Parts

def fractionText (fraction : List Char) : List Char :=
  if fraction = [] then [] else '.' :: fraction

def powerText (power : Option Int) : List Char :=
  (power.map Double.exponentText).elim [] String.toList

def text (p : Parts) : List Char := p.whole ++ (fractionText p.fraction ++ powerText p.power)

/-- The digits as an integer, with the power of ten that puts the point back. -/
def decimal (p : Parts) : Double.Decimal :=
  ⟨Nat.ofDigitChars 10 (p.whole ++ p.fraction) 0, p.power.getD 0 - p.fraction.length⟩

/-- No zero stands before another digit, and there is a digit before the point. -/
structure WellFormed (p : Parts) : Prop where
  nonempty : p.whole ≠ []
  whole : ∀ c ∈ p.whole, c.isDigit = true
  fraction : ∀ c ∈ p.fraction, c.isDigit = true
  leading : p.whole.head? = some '0' → p.whole = ['0']

end Parts

/-- A literal ends before such a text. -/
def EndsLiteral (rest : List Char) : Prop :=
  ∀ c ∈ rest.head?, isNamePart c = false ∧ c ≠ '.'

theorem EndsLiteral.nil : EndsLiteral [] := nofun

section Reading

variable {rest : List Char} (ends : EndsLiteral rest)

theorem digits_append {digits : List Char} (all : ∀ c ∈ digits, c.isDigit = true)
    (stop : ∀ c ∈ rest.head?, c.isDigit = false) :
    (digits ++ rest).takeWhile Char.isDigit = digits ∧
      (digits ++ rest).dropWhile Char.isDigit = rest := by
  rw [List.takeWhile_append_of_pos all, List.dropWhile_append_of_pos all]
  cases rest with
  | nil => exact ⟨List.append_nil _, rfl⟩
  | cons c rest =>
    rw [List.takeWhile_cons, List.dropWhile_cons, stop c rfl]
    exact ⟨List.append_nil _, rfl⟩

include ends

theorem EndsLiteral.stop : ∀ c ∈ rest.head?, c.isDigit = false := by
  intro c first
  have part := (ends c first).1
  rw [isNamePart, Bool.or_eq_false_iff] at part
  exact part.2

theorem EndsLiteral.other {letter : Char} (part : isNamePart letter = true) :
    rest.head? ≠ some letter := by
  intro first
  have no := (ends letter first).1
  rw [part] at no
  cases no

theorem digits?_toDigits (n : Nat) : digits? (Nat.toDigits 10 n ++ rest) = some (n, rest) := by
  have all : ∀ c ∈ Nat.toDigits 10 n, c.isDigit = true := fun c inside =>
    Nat.isDigit_of_mem_toDigits (by decide) (by decide) inside
  obtain ⟨taken, dropped⟩ := digits_append all ends.stop
  rw [digits?, taken, dropped, if_neg Nat.toDigits_ne_nil, Nat.ofDigitChars_ten_toDigits]

theorem exponent?_powerText (power : Option Int) :
    exponent? (Parts.powerText power ++ rest) = some (power.getD 0, rest) := by
  cases power with
  | none =>
    have small := ends.other (show isNamePart 'e' = true by decide)
    have large := ends.other (show isNamePart 'E' = true by decide)
    cases rest with
    | nil => rfl
    | cons c rest =>
      simp only [List.head?_cons, ne_eq, Option.some.injEq] at small large
      simp [Parts.powerText, exponent?, small, large]
  | some x =>
    by_cases negative : x < 0
    · have text : Parts.powerText (some x) ++ rest =
          'e' :: '-' :: (Nat.toDigits 10 x.natAbs ++ rest) := by
        simp [Parts.powerText, Double.exponentText, if_pos negative, Double.digitText]
      have size : -(x.natAbs : Int) = x := by omega
      rw [text, exponent?, digits?_toDigits ends, Option.map_some]
      simp only [size, Option.getD_some]
    · have text : Parts.powerText (some x) ++ rest =
          'e' :: '+' :: (Nat.toDigits 10 x.natAbs ++ rest) := by
        simp [Parts.powerText, Double.exponentText, if_neg negative, Double.digitText]
      have size : (x.natAbs : Int) = x := by omega
      rw [text, exponent?, digits?_toDigits ends, Option.map_some]
      simp only [size, Option.getD_some]

/-- What follows the digits of a literal goes on with none, and starts neither a fraction nor a
suffix. -/
theorem head_powerText (power : Option Int) :
    ∀ c ∈ (Parts.powerText power ++ rest).head?, c.isDigit = false ∧ c ≠ 'n' ∧ c ≠ '.' := by
  cases power with
  | none =>
    intro c first
    refine ⟨ends.stop c first, ?_, (ends c first).2⟩
    rintro rfl
    exact ends.other (by decide) first
  | some x =>
    have letter : (Parts.powerText (some x) ++ rest).head? = some 'e' := by
      simp only [Parts.powerText, Double.exponentText, Option.map_some, Option.elim_some]
      split <;> simp
    rw [letter]
    rintro c ⟨⟩
    decide

theorem number?_text {p : Parts} (formed : p.WellFormed) :
    number? (p.text ++ rest) = some (.number (nearest p.decimal), rest) := by
  obtain ⟨whole, fraction, power⟩ := p
  obtain ⟨nonempty, allWhole, allFraction, leading⟩ := formed
  have exponent := exponent?_powerText ends power
  have next := head_powerText ends power
  have stop : ∀ c ∈ (Parts.powerText power ++ rest).head?, c.isDigit = false :=
    fun c first => (next c first).1
  have zero : ¬(whole.head? = some '0' ∧ whole ≠ ['0']) := fun ⟨first, other⟩ =>
    other (leading first)
  by_cases integer : fraction = []
  · have text : Parts.text ⟨whole, fraction, power⟩ ++ rest =
        whole ++ (Parts.powerText power ++ rest) := by
      simp [Parts.text, Parts.fractionText, integer]
    obtain ⟨taken, dropped⟩ := digits_append allWhole stop
    rw [text]
    unfold number?
    simp only [taken, dropped, if_neg zero]
    split
    next tail => exact absurd rfl (next 'n' (congrArg List.head? tail)).2.1
    next tail => exact absurd rfl (next '.' (congrArg List.head? tail)).2.2
    next => simp [exponent, nonempty, integer, Parts.decimal]
  · have text : Parts.text ⟨whole, fraction, power⟩ ++ rest =
        whole ++ ('.' :: (fraction ++ (Parts.powerText power ++ rest))) := by
      simp [Parts.text, Parts.fractionText, integer]
    have point : ∀ c ∈ ('.' :: (fraction ++ (Parts.powerText power ++ rest))).head?,
        c.isDigit = false := by
      rintro c ⟨⟩
      decide
    obtain ⟨taken, dropped⟩ := digits_append allWhole point
    obtain ⟨taken', dropped'⟩ := digits_append allFraction stop
    rw [text]
    unfold number?
    simp only [taken, dropped, if_neg zero, taken', dropped', exponent, nonempty, false_and,
      ↓reduceIte, Option.map_some, Parts.decimal]

theorem token?_of_number? {text : List Char} {value : Value} {c : Char}
    (first : text.head? = some c) (digit : c.isDigit = true)
    (number : number? text = some (value, rest)) : token? text = some (.literal value, rest) := by
  have ended : rest.head?.any isNamePart = false := by
    cases rest with
    | nil => rfl
    | cons c rest => exact (ends c rfl).1
  obtain ⟨others, rfl⟩ := List.head?_eq_some_iff.mp first
  rw [token?, if_pos (.inl digit), number, Option.bind_some]
  simp only [ended, Bool.false_eq_true, ↓reduceIte]

/-- A well formed literal is one token. -/
theorem token?_text {p : Parts} (formed : p.WellFormed) :
    token? (p.text ++ rest) = some (.literal (.number (nearest p.decimal)), rest) := by
  obtain ⟨c, others, shape⟩ := List.exists_cons_of_ne_nil formed.nonempty
  refine token?_of_number? ends (c := c) ?_ ?_ (number?_text ends formed)
  · rw [Parts.text, shape]
    rfl
  · exact formed.whole c (shape ▸ List.mem_cons_self)

end Reading

/-! ## The layouts of a decimal -/

/-- The text is a literal for a fraction. -/
def Spells (text : String) (x : ℚ) : Prop :=
  ∃ p : Parts, p.WellFormed ∧ text.toList = p.text ∧ p.decimal.value = x

theorem isDigit_toDigits (n : Nat) : ∀ c ∈ Nat.toDigits 10 n, c.isDigit = true := fun _ inside =>
  Nat.isDigit_of_mem_toDigits (by decide) (by decide) inside

theorem isDigit_replicate (n : Nat) : ∀ c ∈ List.replicate n '0', c.isDigit = true := by
  intro c inside
  rw [List.eq_of_mem_replicate inside]
  rfl

theorem head?_toDigits {n : Nat} (positive : 0 < n) : (Nat.toDigits 10 n).head? ≠ some '0' := by
  induction n using Nat.strongRecOn with
  | ind n ih =>
    rcases Nat.lt_or_ge n 10 with small | large
    · rw [Nat.toDigits_of_lt_base small, List.head?_cons, ne_eq, Option.some.injEq,
        Nat.digitChar_eq_zero]
      omega
    · rw [Nat.toDigits_of_base_le (by decide) large,
        List.head?_append_of_ne_nil _ Nat.toDigits_ne_nil]
      exact ih (n / 10) (by omega) (by omega)

/-- Zeros at the end of the digits, taken back by the power of ten. -/
theorem value_shift (digits shift : Nat) (x : Int) :
    Double.Decimal.value ⟨10 ^ shift * digits, x - shift⟩ = Double.Decimal.value ⟨digits, x⟩ := by
  have ten : (10 : ℚ) ≠ 0 := by norm_num
  simp only [Double.Decimal.value]
  rw [Nat.cast_mul, Nat.cast_pow, Nat.cast_ofNat, zpow_sub₀ ten, zpow_natCast]
  field_simp

section Layouts

variable {d : Double.Decimal} (positive : 0 < d.digits)
include positive

theorem spells_integer (integer : 0 ≤ d.exponent) (marked : Bool) :
    Spells (Double.positional marked d) d.value := by
  have point : (if marked then ".0" else "").toList =
      Parts.fractionText (List.replicate marked.toNat '0') := by
    cases marked <;> rfl
  refine ⟨⟨Nat.toDigits 10 d.digits ++ List.replicate d.exponent.toNat '0',
    List.replicate marked.toNat '0', none⟩, ⟨?_, ?_, isDigit_replicate _, ?_⟩, ?_, ?_⟩
  · exact List.append_ne_nil_of_left_ne_nil Nat.toDigits_ne_nil _
  · intro c inside
    rcases List.mem_append.mp inside with digit | zero
    · exact isDigit_toDigits _ c digit
    · exact isDigit_replicate _ c zero
  · intro first
    rw [List.head?_append_of_ne_nil _ Nat.toDigits_ne_nil] at first
    exact absurd first (head?_toDigits positive)
  · rw [Double.positional, if_pos integer, String.toList_append, String.toList_append, point]
    simp [Parts.text, Parts.powerText, Double.zeros]
  · have exponent :
        (0 : Int) - marked.toNat = d.exponent - (d.exponent.toNat + marked.toNat : Nat) := by
      omega
    rw [Parts.decimal, List.append_assoc, List.replicate_append_replicate,
      Nat.ofDigitChars_append, Nat.ofDigitChars_replicate_zero, Nat.ofDigitChars_ten_toDigits,
      Option.getD_none, List.length_replicate, exponent]
    exact value_shift d.digits _ d.exponent

/-- A point among the digits, and the power of ten that makes up for it. -/
theorem spells_split {text : String} (n : Nat) (power : Option Int) (start : 0 < n)
    (exponent : power.getD 0 - ((Nat.toDigits 10 d.digits).length - n : Nat) = d.exponent)
    (written : text.toList = Parts.text ⟨(Nat.toDigits 10 d.digits).take n,
      (Nat.toDigits 10 d.digits).drop n, power⟩) : Spells text d.value := by
  have split := List.take_append_drop n (Nat.toDigits 10 d.digits)
  have nonempty : (Nat.toDigits 10 d.digits).take n ≠ [] := by
    rw [ne_eq, List.take_eq_nil_iff, not_or]
    exact ⟨by omega, Nat.toDigits_ne_nil⟩
  refine ⟨_, ⟨nonempty, fun c digit => isDigit_toDigits _ c (List.mem_of_mem_take digit),
      fun c digit => isDigit_toDigits _ c (List.mem_of_mem_drop digit), ?_⟩, written, ?_⟩
  · intro first
    have first : ((Nat.toDigits 10 d.digits).take n).head? = some '0' := first
    rw [List.head?_take, if_neg (by omega)] at first
    exact absurd first (head?_toDigits positive)
  · rw [Parts.decimal, split, Nat.ofDigitChars_ten_toDigits, List.length_drop, exponent]

theorem spells_fraction (fraction : d.exponent < 0)
    (inside : (-d.exponent).toNat < (Nat.toDigits 10 d.digits).length) (marked : Bool) :
    Spells (Double.positional marked d) d.value := by
  refine spells_split positive ((Nat.toDigits 10 d.digits).length - (-d.exponent).toNat) none
    (by omega) ?_ ?_
  · rw [Option.getD_none]
    omega
  · have nonempty : (Nat.toDigits 10 d.digits).drop
        ((Nat.toDigits 10 d.digits).length - (-d.exponent).toNat) ≠ [] := by
      rw [ne_eq, List.drop_eq_nil_iff]
      omega
    rw [Double.positional, if_neg (by omega), if_pos inside]
    simp [Parts.text, Parts.fractionText, Parts.powerText, nonempty]

omit positive in
theorem spells_small (fraction : d.exponent < 0)
    (outside : (Nat.toDigits 10 d.digits).length ≤ (-d.exponent).toNat) (marked : Bool) :
    Spells (Double.positional marked d) d.value := by
  refine ⟨⟨['0'], List.replicate ((-d.exponent).toNat - (Nat.toDigits 10 d.digits).length) '0' ++
    Nat.toDigits 10 d.digits, none⟩, ⟨List.cons_ne_nil _ _, ?_, ?_, fun _ => rfl⟩, ?_, ?_⟩
  · exact isDigit_replicate 1
  · intro c inside
    rcases List.mem_append.mp inside with zero | digit
    · exact isDigit_replicate _ c zero
    · exact isDigit_toDigits _ c digit
  · rw [Double.positional, if_neg (by omega), if_neg (by omega)]
    simp [Parts.text, Parts.fractionText, Parts.powerText, Double.zeros, Nat.toDigits_ne_nil]
  · have zeros : Nat.ofDigitChars 10 (List.replicate
        ((-d.exponent).toNat - (Nat.toDigits 10 d.digits).length) '0') 0 = 0 := by
      rw [Nat.ofDigitChars_replicate_zero, Nat.mul_zero]
    have zero : Nat.ofDigitChars 10 ['0'] 0 = 0 := rfl
    rw [Parts.decimal, Nat.ofDigitChars_append, Nat.ofDigitChars_append, zero, zeros,
      Nat.ofDigitChars_ten_toDigits, List.length_append, List.length_replicate, Option.getD_none]
    congr 2
    omega

theorem spells_scientific : Spells (Double.scientific d) d.value := by
  have length : 0 < (Nat.toDigits 10 d.digits).length := Nat.length_toDigits_pos
  refine spells_split positive 1 (some (d.exponent + (Nat.toDigits 10 d.digits).length - 1))
    Nat.one_pos ?_ ?_
  · rw [Option.getD_some]
    omega
  · by_cases single : (Nat.toDigits 10 d.digits).tail = []
    · simp [Double.scientific, Parts.text, Parts.fractionText, Parts.powerText, single]
    · simp [Double.scientific, Parts.text, Parts.fractionText, Parts.powerText, single]

/-- In every form the text of a decimal is a literal for it. -/
theorem spells_write (form : Double.Spelling) : Spells (form.write d) d.value := by
  rw [Double.Spelling.write]
  split
  · rcases Int.lt_or_le d.exponent 0 with fraction | integer
    · rcases Nat.lt_or_ge (-d.exponent).toNat (Nat.toDigits 10 d.digits).length
        with inside | outside
      · exact spells_fraction positive fraction inside _
      · exact spells_small fraction outside _
    · exact spells_integer positive integer _
  · exact spells_scientific positive

end Layouts

/-! ## The value of a literal -/

theorem evaluates_unary {text : String} {tokens : List Token} {e : Expr} {value : Value}
    (scanned : Tokens text.toList tokens) (derived : Derives .unary tokens e)
    (held : e.value? = some value) : Evaluates text value :=
  ⟨tokens, e, scanned, .term (.factor derived), held⟩

/-- No token starts with an equals sign. -/
theorem Tokens.head?_ne {text : List Char} {tokens : List Token} (scanned : Tokens text tokens) :
    text.head? ≠ some '=' := by
  intro equals
  obtain ⟨rest, rfl⟩ := List.head?_eq_some_iff.mp equals
  cases scanned with
  | blank blank => exact absurd blank (by decide)
  | token found => cases found

theorem tokens_power {text : List Char} {tokens : List Token} (more : Tokens text tokens) :
    Tokens ('*' :: '*' :: text) (.mark .power :: tokens) := by
  refine .token ?_ more
  change (mark? ('*' :: '*' :: text)).map _ = _
  rw [mark?, if_neg more.head?_ne]
  rfl

/-- A minus sign before another token is a token of its own. -/
theorem tokens_minus {text : List Char} {token : Token} {tokens : List Token}
    (more : Tokens text (token :: tokens)) (other : token ≠ .mark .minus) :
    Tokens ('-' :: text) (.mark .minus :: token :: tokens) := by
  have single : ¬(text.head? = some '-' ∨ text.head? = some '=') := by
    rintro (minus | equals)
    · obtain ⟨rest, rfl⟩ := List.head?_eq_some_iff.mp minus
      cases more with
      | blank blank => exact absurd blank (by decide)
      | token found =>
        change (mark? ('-' :: rest)).map _ = _ at found
        rw [mark?] at found
        split at found
        · cases found
        · cases found
          exact other rfl
    · exact more.head?_ne equals
  refine .token ?_ more
  change (mark? ('-' :: text)).map _ = _
  rw [mark?, if_neg single]
  rfl

theorem evaluates_negated {text : String} {token : Token} {tokens : List Token} {e : Expr}
    {value : Value} (scanned : Tokens text.toList (token :: tokens)) (other : token ≠ .mark .minus)
    (derived : Derives .unary (token :: tokens) e) (held : e.negate.value? = some value) :
    Evaluates ("-" ++ text) value := by
  refine evaluates_unary ?_ (.negate derived) held
  rw [String.toList_append]
  exact tokens_minus scanned other

theorem nearest_of_holds {mantissa : Nat} {exponent : Int}
    (canonical : Double.Canonical mantissa exponent) (some : mantissa ≠ 0) {d : Double.Decimal}
    (holds : (Double.neighbourhood mantissa exponent).Holds d.value) :
    nearest d = .finite false mantissa exponent canonical := by
  have power := Double.pow_toNat_div 10 (by decide) d.exponent
  have fraction : ((d.digits * 10 ^ d.exponent.toNat : Nat) : ℚ) /
      (10 ^ (-d.exponent).toNat : Nat) = d.value := by
    rw [Nat.cast_mul, mul_div_assoc, power, Double.Decimal.value, Nat.cast_ofNat]
  exact Double.ofRatio_of_holds canonical some false (Nat.pow_pos (by decide)) (fraction ▸ holds)

theorem tokens_write {mantissa : Nat} {exponent : Int}
    (canonical : Double.Canonical mantissa exponent) (some : mantissa ≠ 0)
    (form : Double.Spelling) (tie : Double.Tie) :
    Tokens (form.write (Double.shortest mantissa exponent tie)).toList
      [.literal (.number (.finite false mantissa exponent canonical))] := by
  obtain ⟨p, formed, written, value⟩ :=
    spells_write (Double.digits_shortest_pos exponent some canonical.1 tie) form
  have holds := Double.shortest_holds exponent some canonical.1 tie
  have number := nearest_of_holds canonical some (value ▸ holds)
  have token := token?_text .nil formed
  rw [List.append_nil, ← written, number] at token
  exact .token token .done

theorem integer?_of_isZero {x : Double} (zero : x.isZero = true) : x.integer? = some 0 := by
  cases x with
  | nan => cases zero
  | infinite negative => cases zero
  | finite negative mantissa exponent canonical =>
    obtain rfl : mantissa = 0 := by simpa [Double.isZero] using zero
    simp [Double.integer?]

/-- The number, with a plain zero for the negative one. -/
def withoutZeroSign (x : Double) : Double := if x.isZero then .zero false else x

theorem evaluates_signed {mantissa : Nat} {exponent : Int}
    (canonical : Double.Canonical mantissa exponent) (some : mantissa ≠ 0)
    (form : Double.Spelling) (tie : Double.Tie) (negative : Bool) :
    Evaluates ((if negative then "-" else "") ++ form.write (Double.shortest mantissa exponent tie))
      (.number (.finite negative mantissa exponent canonical)) := by
  have scanned := tokens_write canonical some form tie
  cases negative with
  | false =>
    rw [if_neg Bool.false_ne_true, String.empty_append]
    exact evaluates_unary scanned (.operand (.literal _)) rfl
  | true => exact evaluates_negated scanned nofun (.operand (.literal _)) rfl

/-- **A number is written as it is.** The text of any number is an expression for it. -/
theorem evaluates_text (x : Double) : Evaluates x.text (.number (withoutZeroSign x)) := by
  cases x with
  | nan =>
    have free : "NaN" ∉ reservedWords := by decide
    exact evaluates_unary (.token rfl .done) (.operand (.reference free)) rfl
  | infinite negative =>
    have free : "Infinity" ∉ reservedWords := by decide
    have scanned : Tokens "Infinity".toList [.name "Infinity"] := .token rfl .done
    cases negative with
    | false => exact evaluates_unary scanned (.operand (.reference free)) rfl
    | true => exact evaluates_negated scanned nofun (.operand (.reference free)) rfl
  | finite negative mantissa exponent canonical =>
    rw [Double.text]
    split
    next zero =>
      have zero : withoutZeroSign (.finite negative mantissa exponent canonical) = .zero false := by
        simp [withoutZeroSign, Double.isZero, zero]
      rw [zero]
      exact evaluates_unary (.token rfl .done) (.operand (.literal _)) rfl
    next nonzero =>
      have same : withoutZeroSign (.finite negative mantissa exponent canonical) =
          .finite negative mantissa exponent canonical := by
        simp [withoutZeroSign, Double.isZero, nonzero]
      rw [same]
      exact evaluates_signed canonical nonzero _ _ negative

end SchemaSource.Script
