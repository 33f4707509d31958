import Mathlib.Data.List.Infix
import SchemaSource.Proofs.CallText
import SchemaSource.Proofs.Spelling
/-!
The text of an integer as an expression. Digits, powers, differences and the names of the safe
integers are evaluated from the text alone, so a symbolic spelling is exact when the integer that it
was written for comes out. Which integers are symbolic is decided on their bits.
-/
namespace SchemaSource

namespace Numeral

/-! ## Evaluating a text -/

/-- A word, or a character that stands for itself. -/
inductive Token where
  | word (letters : List Char)
  | mark (c : Char)
  deriving DecidableEq

/-- The characters of names and digits. -/
def isWordLetter (c : Char) : Bool := c.isAlphanum || c == '_' || c == '.'

def Token.ofWord (letters : List Char) : List Token :=
  if letters.isEmpty then [] else [.word letters]

/-- The tokens of a text, of which the start of a word has been read. -/
def scan (started : List Char) : List Char → List Token
  | [] => Token.ofWord started
  | c :: rest =>
    if isWordLetter c then scan (started ++ [c]) rest
    else Token.ofWord started ++ .mark c :: scan [] rest

/-- Digits before the suffix that all literals carry. -/
def literal? (suffix letters : List Char) : Option Nat :=
  let digits := letters.takeWhile Char.isDigit
  if digits ≠ [] ∧ letters = digits ++ suffix then some (Nat.ofDigitChars 10 digits 0) else none

/-- An integer that goes by its name. Literals with a suffix have no such company. -/
def constant? (suffix letters : List Char) : Option Int :=
  if suffix = [] then
    if letters = "Number.MAX_SAFE_INTEGER".toList then some greatestSafe
    else if letters = "Number.MIN_SAFE_INTEGER".toList then some (-greatestSafe)
    else none
  else none

def word? (suffix letters : List Char) : Option Int :=
  match literal? suffix letters with
  | some n => some n
  | none => constant? suffix letters

/-- A power or a word at the start of tokens, and what is left of them. -/
def operand? (suffix : List Char) : List Token → Option (Int × List Token)
  | .word base :: .mark '*' :: .mark '*' :: .word exponent :: rest => do
    return ((← literal? suffix base : Nat) ^ (← literal? suffix exponent), rest)
  | .word letters :: rest => do return (← word? suffix letters, rest)
  | _ => none

/-- An operand, or one less another. -/
def difference? (suffix : List Char) (tokens : List Token) : Option (Int × List Token) := do
  let (first, rest) ← operand? suffix tokens
  match rest with
  | .mark ' ' :: .mark '-' :: .mark ' ' :: rest =>
    let (second, rest) ← operand? suffix rest
    return (first - second, rest)
  | rest => return (first, rest)

/-- The value of a text whose literals carry a suffix. A leading minus is applied last: to a whole
power, or to a difference in parentheses. -/
def evaluate? (suffix text : String) : Option Int :=
  match scan [] text.toList with
  | .mark '-' :: .mark '(' :: rest =>
    match difference? suffix.toList rest with
    | some (n, [.mark ')']) => some (-n)
    | _ => none
  | .mark '-' :: rest =>
    match operand? suffix.toList rest with
    | some (n, []) => some (-n)
    | _ => none
  | tokens =>
    match difference? suffix.toList tokens with
    | some (n, []) => some n
    | _ => none

/-! ## Spellings are exact -/

theorem scan_word {letters : List Char} (plain : ∀ c ∈ letters, isWordLetter c = true)
    (started : List Char) : scan started letters = Token.ofWord (started ++ letters) := by
  induction letters generalizing started with
  | nil => rw [scan, List.append_nil]
  | cons c rest ih =>
    obtain ⟨letter, others⟩ := List.forall_mem_cons.mp plain
    rw [scan, if_pos letter, ih others, List.append_assoc, List.singleton_append]

/-- Two suffixes are in use: none for numbers, and one letter for big integers. -/
def IsSuffix (suffix : String) : Prop := suffix = "" ∨ suffix = "n"

section Digits

variable {suffix : String} (known : IsSuffix suffix) (n : Nat)
include known

theorem literal?_digits :
    literal? suffix.toList (Nat.toDigits 10 n ++ suffix.toList) = some n := by
  have digits : ∀ c ∈ Nat.toDigits 10 n, c.isDigit = true := fun c inside =>
    Nat.isDigit_of_mem_toDigits (by decide) (by decide) inside
  have ended : suffix.toList.takeWhile Char.isDigit = [] := by
    rcases known with rfl | rfl <;> decide
  have taken : (Nat.toDigits 10 n ++ suffix.toList).takeWhile Char.isDigit =
      Nat.toDigits 10 n := by
    rw [List.takeWhile_append_of_pos digits, ended, List.append_nil]
  simp only [literal?, taken, ne_eq, Nat.toDigits_ne_nil, not_false_eq_true, and_self, ↓reduceIte,
    Nat.ofDigitChars_ten_toDigits]

theorem scan_digits :
    scan [] (Nat.toDigits 10 n ++ suffix.toList) =
      [.word (Nat.toDigits 10 n ++ suffix.toList)] := by
  have letters : ∀ c ∈ Nat.toDigits 10 n ++ suffix.toList, isWordLetter c = true := by
    intro c inside
    rcases List.mem_append.mp inside with digit | ending
    · have digit : c.isDigit = true :=
        Nat.isDigit_of_mem_toDigits (by decide) (by decide) digit
      simp [isWordLetter, Char.isAlphanum, digit]
    · rcases known with rfl | rfl
      · cases ending
      · exact List.mem_singleton.mp ending ▸ (by decide)
  have some : (Nat.toDigits 10 n ++ suffix.toList).isEmpty = false := by
    simp [Nat.toDigits_ne_nil]
  rw [scan_word letters, List.nil_append, Token.ofWord, some]
  rfl

end Digits

/-- A decimal denotes its integer. -/
theorem evaluate?_digits {suffix : String} (known : IsSuffix suffix) (n : Int) :
    evaluate? suffix (toString n ++ suffix) = some n := by
  have word : word? suffix.toList (Nat.toDigits 10 n.natAbs ++ suffix.toList) =
      some (n.natAbs : Int) := by
    rw [word?, literal?_digits known]
  have operand : operand? suffix.toList [.word (Nat.toDigits 10 n.natAbs ++ suffix.toList)] =
      some ((n.natAbs : Int), []) := by
    simp only [operand?, word]
    rfl
  rw [evaluate?, String.toList_append, toList_toString_int]
  by_cases negative : n < 0
  · have minus : scan [] ('-' :: (Nat.toDigits 10 n.natAbs ++ suffix.toList)) =
        [.mark '-', .word (Nat.toDigits 10 n.natAbs ++ suffix.toList)] := by
      rw [scan, if_neg (by decide), scan_digits known]
      rfl
    have size : -(n.natAbs : Int) = n := by omega
    simp only [if_pos negative, List.cons_append, minus, operand, size]
  · have size : (n.natAbs : Int) = n := by omega
    have difference : difference? suffix.toList
        [.word (Nat.toDigits 10 n.natAbs ++ suffix.toList)] = some ((n.natAbs : Int), []) := by
      simp only [difference?, operand]
      rfl
    simp only [if_neg negative, scan_digits known, difference, size]

/-- The symbols of a table denote their integers. -/
def Exact (suffix : String) (symbols : List Numeral) : Prop :=
  ∀ numeral ∈ symbols, evaluate? suffix (numeral.text suffix) = some numeral.value

theorem exact_ofNumber : Exact "" ofNumber := by
  unfold Exact
  decide

theorem exact_ofBigint : Exact "n" ofBigint := by
  unfold Exact
  decide

end Numeral

theorem Spelling.evaluate?_choose {suffix : String} (known : Numeral.IsSuffix suffix)
    {symbols : List Numeral} (exact : Numeral.Exact suffix symbols) (o : Optimizations) (n : Int) :
    Numeral.evaluate? suffix ((Spelling.choose o symbols n).text suffix) = some n := by
  have value := Spelling.value_choose o symbols n
  unfold Spelling.choose at value ⊢
  split at value <;> rename_i symbolic
  · rw [if_pos symbolic]
    cases found : Numeral.find? symbols n with
    | none => exact Numeral.evaluate?_digits known n
    | some numeral =>
      rw [found] at value
      exact value ▸ exact numeral (List.mem_of_find?_eq_some found)
  · rw [if_neg symbolic]
    exact Numeral.evaluate?_digits known n

/-- A number is spelled exactly under all options. -/
theorem Optimizations.evaluate?_numberText (o : Optimizations) {x : Double} {n : Int}
    (integer : x.integer? = some n) (small : n.natAbs ≤ 2 ^ 53) :
    Numeral.evaluate? "" (o.numberText x) = some n := by
  rw [o.numberText_eq integer small]
  exact Spelling.evaluate?_choose (.inl rfl) Numeral.exact_ofNumber o n

/-- And so is a big integer. -/
theorem Optimizations.evaluate?_bigintText (o : Optimizations) (n : Int) :
    Numeral.evaluate? "n" (o.bigintText n) = some n := by
  rw [o.bigintText_eq n]
  exact Spelling.evaluate?_choose (.inr rfl) Numeral.exact_ofBigint o n

/-! ## Powers of two by their bits -/

namespace Numeral

/-- The exponent of a power of two. Such a number shares no bit with its predecessor, and its
highest bit is its only one. -/
def exponent? (n : Nat) : Option Nat :=
  if n = 0 then none
  else if n &&& (n - 1) = 0 then some n.log2
  else none

theorem exponent?_eq_some_iff {n k : Nat} : exponent? n = some k ↔ n = 2 ^ k := by
  unfold exponent?
  by_cases zero : n = 0
  · have positive : 0 < 2 ^ k := Nat.two_pow_pos k
    rw [if_pos zero, zero]
    exact ⟨nofun, fun same => absurd same (Nat.ne_of_lt positive)⟩
  · have power := Nat.and_sub_one_eq_zero_iff_isPowerOfTwo zero
    rw [if_neg zero]
    split
    next disjoint =>
      obtain ⟨j, rfl⟩ := power.mp disjoint
      rw [Nat.log2_two_pow, Option.some.injEq, Nat.pow_right_inj (by decide : 1 < 2)]
    next shared =>
      refine ⟨nofun, fun same => ?_⟩
      exact absurd (power.mpr ⟨k, same⟩) shared

/-- The exponents of powers that have a symbol in either sign, and so have their predecessors. -/
def knownExponents : List Nat := [8, 16, 32, 64]

def knownExponent? (n : Nat) : Option Nat := (exponent? n).filter (· ∈ knownExponents)

theorem knownExponent?_eq_some_iff {n k : Nat} :
    knownExponent? n = some k ↔ k ∈ knownExponents ∧ n = 2 ^ k := by
  rw [knownExponent?, Option.filter_eq_some_iff, exponent?_eq_some_iff, decide_eq_true_eq, and_comm]

/-- The symbol of a big integer, found on its bits: three bounds of 64 bit integers, then the powers
of two by size, then their predecessors. -/
def recognize? (b : Int) : Option Numeral :=
  if b = 2 ^ 63 - 1 then some (.powerLessOne 63)
  else if b = -2 ^ 63 then some (.negatedPower 63)
  else if b = 2 ^ 64 - 1 then some (.powerLessOne 64)
  else
    match knownExponent? b.natAbs with
    | some k => some (if b < 0 then .negatedPower k else .power k)
    | none =>
      (knownExponent? (b.natAbs + 1)).map fun k =>
        if b < 0 then .negatedPowerLessOne k else .powerLessOne k

/-- The big integers with a symbol. -/
def HasSymbol (b : Int) : Prop :=
  (∃ k ∈ knownExponents, b.natAbs = 2 ^ k ∨ b.natAbs + 1 = 2 ^ k) ∨ b = 2 ^ 63 - 1 ∨ b = -2 ^ 63

instance (b : Int) : Decidable (HasSymbol b) := by
  unfold HasSymbol
  infer_instance

theorem mem_ofBigint {k : Nat} (known : k ∈ knownExponents) :
    .power k ∈ ofBigint ∧ .negatedPower k ∈ ofBigint ∧
      .powerLessOne k ∈ ofBigint ∧ .negatedPowerLessOne k ∈ ofBigint := by
  have each : ∀ k ∈ knownExponents, .power k ∈ ofBigint ∧ .negatedPower k ∈ ofBigint ∧
      .powerLessOne k ∈ ofBigint ∧ .negatedPowerLessOne k ∈ ofBigint := by decide
  exact each k known

/-- What is recognized is a symbol of the integer. -/
theorem value_of_recognize? {b : Int} {numeral : Numeral} (found : recognize? b = some numeral) :
    numeral ∈ ofBigint ∧ numeral.value = b := by
  unfold recognize? at found
  split at found
  next greatest =>
    cases found
    exact ⟨by decide, greatest.symm⟩
  split at found
  next least =>
    cases found
    exact ⟨by decide, least.symm⟩
  split at found
  next unsigned =>
    cases found
    exact ⟨by decide, unsigned.symm⟩
  split at found
  next k power =>
    obtain ⟨known, size⟩ := knownExponent?_eq_some_iff.mp power
    obtain ⟨positive, negative, -, -⟩ := mem_ofBigint known
    have size : (b.natAbs : Int) = 2 ^ k := by exact_mod_cast size
    cases found
    split
    · exact ⟨negative, by simp only [value]; omega⟩
    · exact ⟨positive, by simp only [value]; omega⟩
  next =>
    obtain ⟨k, power, shape⟩ := Option.map_eq_some_iff.mp found
    obtain ⟨known, size⟩ := knownExponent?_eq_some_iff.mp power
    obtain ⟨-, -, positive, negative⟩ := mem_ofBigint known
    have size : (b.natAbs : Int) + 1 = 2 ^ k := by exact_mod_cast size
    cases shape
    split
    · exact ⟨negative, by simp only [value]; omega⟩
    · exact ⟨positive, by simp only [value]; omega⟩

/-- The bits of an integer tell its symbol just as a search through all symbols does. -/
theorem recognize?_eq_find? (b : Int) : recognize? b = find? ofBigint b := by
  have each : ∀ numeral ∈ ofBigint, recognize? numeral.value = some numeral ∧
      find? ofBigint numeral.value = some numeral := by decide
  cases recognized : recognize? b with
  | some numeral =>
    obtain ⟨member, rfl⟩ := value_of_recognize? recognized
    exact (each numeral member).2.symm
  | none =>
    cases found : find? ofBigint b with
    | none => rfl
    | some numeral =>
      have same : numeral.value = b := by simpa using List.find?_some found
      have other := (each numeral (List.mem_of_find?_eq_some found)).1
      rw [same, recognized] at other
      cases other

theorem recognize?_isSome_iff (b : Int) : (recognize? b).isSome ↔ HasSymbol b := by
  constructor
  · intro some
    obtain ⟨numeral, recognized⟩ := Option.isSome_iff_exists.mp some
    obtain ⟨member, rfl⟩ := value_of_recognize? recognized
    have each : ∀ numeral ∈ ofBigint, HasSymbol numeral.value := by decide
    exact each numeral member
  · intro symbol
    unfold recognize?
    split
    next => rfl
    next other =>
      split
      next => rfl
      next another =>
        split
        next => rfl
        next =>
          rcases symbol with ⟨k, known, power | predecessor⟩ | greatest | least
          · rw [knownExponent?_eq_some_iff.mpr ⟨known, power⟩]
            rfl
          · rw [knownExponent?_eq_some_iff.mpr ⟨known, predecessor⟩]
            cases knownExponent? b.natAbs <;> rfl
          · exact absurd greatest other
          · exact absurd least another

/-- The numbers with a symbol: the safe integers, and the bounds of 8, 16 and 32 bit integers. -/
def wellKnown : List Int :=
  [9007199254740991, -9007199254740991, 127, 32767, 2147483647, -128, -32768, -2147483648,
    256, 65536, 4294967296, 255, 65535, 4294967295]

theorem find?_ofNumber_isSome_iff (n : Int) : (find? ofNumber n).isSome ↔ n ∈ wellKnown := by
  have values : ofNumber.map value = wellKnown := by decide
  rw [find?, List.find?_isSome, ← values, List.mem_map]
  simp only [beq_iff_eq]

end Numeral

/-! ## Which texts are symbolic -/

/-- A power is written somewhere in the text. -/
def HasPower (text : String) : Prop := ['*', '*'] <:+: text.toList

instance (text : String) : Decidable (HasPower text) := by
  unfold HasPower
  infer_instance

/-- The text says where its number comes from: by a power, or by a name. -/
def IsSymbolic (text : String) : Prop := HasPower text ∨ "Number.".toList <+: text.toList

instance (text : String) : Decidable (IsSymbolic text) := by
  unfold IsSymbolic
  infer_instance

/-- Digits are no symbol. -/
theorem not_isSymbolic_digits {suffix : String} (known : Numeral.IsSuffix suffix) (n : Int) :
    ¬IsSymbolic (toString n ++ suffix) := by
  have plain : ∀ c ∈ (toString n ++ suffix).toList, c ≠ '*' ∧ c ≠ 'N' := by
    intro c inside
    rw [String.toList_append] at inside
    rcases List.mem_append.mp inside with decimal | ending
    · rcases digit_of_mem_toString_int decimal with rfl | digit
      · decide
      · constructor <;> rintro rfl <;> exact absurd digit (by decide)
    · rcases known with rfl | rfl
      · cases ending
      · exact List.mem_singleton.mp ending ▸ (by decide)
  rintro (power | name)
  · exact (plain '*' (power.subset List.mem_cons_self)).1 rfl
  · exact (plain 'N' (name.subset (by decide))).2 rfl

theorem symbolicBigintText_eq (b : Int) :
    symbolicBigintText b =
      ((Numeral.recognize? b).map (Numeral.text "n")).getD (toString b ++ "n") := by
  rw [symbolicBigintText, Numeral.recognize?_eq_find?]
  cases Numeral.find? Numeral.ofBigint b <;> rfl

theorem hasPower_symbolicBigintText_iff (b : Int) :
    HasPower (symbolicBigintText b) ↔ Numeral.HasSymbol b := by
  have powers : ∀ numeral ∈ Numeral.ofBigint, HasPower (numeral.text "n") := by
    decide +kernel
  rw [← Numeral.recognize?_isSome_iff, symbolicBigintText_eq]
  cases recognized : Numeral.recognize? b with
  | none =>
    have digits : ¬HasPower (toString b ++ "n") := fun power =>
      not_isSymbolic_digits (.inr rfl) b (.inl power)
    exact ⟨fun power => absurd power digits, nofun⟩
  | some numeral =>
    have member := (Numeral.value_of_recognize? recognized).1
    exact ⟨fun _ => rfl, fun _ => powers numeral member⟩

theorem symbolicText_eq {x : Double} {k : Int} (integer : x.integer? = some k)
    (small : k.natAbs ≤ 2 ^ 53) :
    x.symbolicText =
      ((Numeral.find? Numeral.ofNumber k).map (Numeral.text "")).getD (toString k) := by
  rw [Double.symbolicText, integer, Option.bind_some]
  cases Numeral.find? Numeral.ofNumber k with
  | none => exact Double.text_eq_toString integer small
  | some numeral => rfl

theorem isSymbolic_symbolicText_iff {x : Double} {k : Int} (integer : x.integer? = some k)
    (small : k.natAbs ≤ 2 ^ 53) : IsSymbolic x.symbolicText ↔ k ∈ Numeral.wellKnown := by
  have symbols : ∀ numeral ∈ Numeral.ofNumber, IsSymbolic (numeral.text "") := by
    decide +kernel
  rw [← Numeral.find?_ofNumber_isSome_iff, symbolicText_eq integer small]
  cases found : Numeral.find? Numeral.ofNumber k with
  | none =>
    have digits : ¬IsSymbolic (toString k) := by
      have plain := not_isSymbolic_digits (.inl rfl) k
      rwa [String.append_empty] at plain
    exact ⟨fun symbolic => absurd symbolic digits, nofun⟩
  | some numeral => exact ⟨fun _ => rfl, fun _ => symbols numeral (List.mem_of_find?_eq_some found)⟩

/-- Integers up to `2 ^ 53` are doubles. -/
theorem Double.integer?_ofInt_of_le {k : Int} (small : k.natAbs ≤ 2 ^ 53) :
    (Double.ofInt k).integer? = some k := by
  rcases Nat.lt_or_eq_of_le small with less | edge
  · exact Double.integer?_ofInt less
  · obtain rfl | rfl : k = 9007199254740992 ∨ k = -9007199254740992 := by omega
    · decide +kernel
    · decide +kernel

/-! ## All integers -/

/-- What the text of a big integer tells. -/
structure WritesBigint (b : Int) : Prop where
  denotes : Numeral.evaluate? "n" (symbolicBigintText b) = some b
  /-- A power is written for powers of two and their predecessors, of either sign, and for the two
  bounds of signed 64 bit integers. -/
  symbolic : HasPower (symbolicBigintText b) ↔ Numeral.HasSymbol b
  plain : ¬Numeral.HasSymbol b → symbolicBigintText b = toString b ++ "n"
  /-- The symbol can be found on the bits of the integer. -/
  recognized : symbolicBigintText b =
    ((Numeral.recognize? b).map (Numeral.text "n")).getD (toString b ++ "n")

theorem writesBigint (b : Int) : WritesBigint b where
  denotes := Optimizations.evaluate?_bigintText { scientificNotation := true } b
  symbolic := hasPower_symbolicBigintText_iff b
  plain := by
    intro none
    rw [symbolicBigintText_eq]
    cases recognized : Numeral.recognize? b with
    | none => rfl
    | some numeral =>
      have some := (Numeral.recognize?_isSome_iff b).mp (recognized ▸ rfl)
      exact absurd some none
  recognized := symbolicBigintText_eq b

/-- What the text of a number tells that holds an integer. -/
structure WritesInteger (x : Double) (k : Int) : Prop where
  denotes : Numeral.evaluate? "" x.symbolicText = some k
  symbolic : IsSymbolic x.symbolicText ↔ k ∈ Numeral.wellKnown
  plain : k ∉ Numeral.wellKnown → x.symbolicText = toString k

theorem writesInteger {x : Double} {k : Int} (integer : x.integer? = some k)
    (small : k.natAbs ≤ 2 ^ 53) : WritesInteger x k where
  denotes := Optimizations.evaluate?_numberText { scientificNotation := true } integer small
  symbolic := isSymbolic_symbolicText_iff integer small
  plain := by
    intro unknown
    rw [← Numeral.find?_ofNumber_isSome_iff, Option.not_isSome_iff_eq_none] at unknown
    rw [symbolicText_eq integer small, unknown]
    rfl

/-- **Symbols are exact.** The text of a big integer denotes it and no other, with a power where the
bits of the integer show one that has a symbol. A number that holds an integer of at most `2 ^ 53`
in size is denoted as well, by a symbol just where the integer is a well known one. -/
theorem symbolic_texts_exact :
    (∀ b, WritesBigint b) ∧
      Function.Injective symbolicBigintText ∧
      ∀ k : Int, k.natAbs ≤ 2 ^ 53 →
        (Double.ofInt k).integer? = some k ∧
          ∀ x : Double, x.integer? = some k → WritesInteger x k := by
  refine ⟨writesBigint, ?_, ?_⟩
  · intro b c same
    have value := (writesBigint b).denotes
    rw [same, (writesBigint c).denotes] at value
    exact (Option.some.inj value).symm
  · intro k small
    exact ⟨Double.integer?_ofInt_of_le small, fun x integer => writesInteger integer small⟩

/-- The least safe integer, and a big integer that two of the symbols come near to. -/
theorem symbolic_texts_exact_at_bounds :
    Int.natAbs (-9007199254740991) ≤ 2 ^ 53 ∧
      IsSymbolic (Double.ofInt (-9007199254740991)).symbolicText ∧
      HasPower (symbolicBigintText (-(2 ^ 64 - 1))) ∧
      symbolicBigintText (2 ^ 63) = "9223372036854775808n" := by
  obtain ⟨bigints, -, numbers⟩ := symbolic_texts_exact
  have small : Int.natAbs (-9007199254740991) ≤ 2 ^ 53 := by decide
  obtain ⟨integer, written⟩ := numbers _ small
  refine ⟨small, (written _ integer).symbolic.mpr (by decide), ?_, ?_⟩
  · exact (bigints _).symbolic.mpr (by decide)
  · exact (bigints _).plain (by decide)

example : symbolicBigintText (-(2 ^ 64 - 1)) = "-(2n**64n - 1n)" := by decide

end SchemaSource
