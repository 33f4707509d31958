import SchemaSource.Proofs.CallText
import SchemaSource.Proofs.SourceScan
import SchemaSource.Rule.Container
import SchemaSource.Rule.Modifier
import SchemaSource.Rule.Range
/-!
What a scan makes of the texts that data has. Strings are quoted, so that whatever they hold stays
within their quotes; numbers and names are plain; JSON nests by itself. Only bounds that are strings
and regular expressions stand as they are.
-/
namespace SchemaSource

open Text

variable {lines : Bool}

/-! ## Strings -/

namespace Text

/-- A digit of an escape neither ends a string nor escapes, and is no line end. -/
theorem hexDigit_not_mem (n : Nat) : hexDigit n ∉ ['"', '\\', '\n'] := by
  unfold hexDigit
  by_cases small : n < 16
  · have each : ∀ m < 16, Nat.digitChar m ∉ ['"', '\\', '\n'] := by decide
    exact each n small
  · have star : Nat.digitChar n = '*' := by
      unfold Nat.digitChar
      repeat rw [if_neg (by omega)]
    rw [star]
    decide

theorem run_string_char {c : Char} (inside : c ∉ ['"', '\\', '\n']) (brackets : List Bracket)
    (rest : List Char) :
    Scan.run ⟨.string, brackets⟩ (c :: rest) = Scan.run ⟨.string, brackets⟩ rest := by
  simp only [List.mem_cons, not_or] at inside
  simp only [Scan.run, Scan.step, ScanMode.skip?, if_neg inside.1, if_neg inside.2.1,
    Option.bind_some]

/-- What stands for a character keeps the scan in the string, and on the line. -/
theorem escapeChar_inside (c : Char) (brackets : List Bracket) (rest : List Char) :
    Scan.run ⟨.string, brackets⟩ (escapeChar c ++ rest) = Scan.run ⟨.string, brackets⟩ rest ∧
      '\n' ∉ escapeChar c := by
  unfold escapeChar
  split
  · exact ⟨rfl, by decide⟩
  split
  · exact ⟨rfl, by decide⟩
  split
  · exact ⟨rfl, by decide⟩
  split
  · exact ⟨rfl, by decide⟩
  split
  · exact ⟨rfl, by decide⟩
  split
  · exact ⟨rfl, by decide⟩
  split
  · exact ⟨rfl, by decide⟩
  split
  · have high := hexDigit_not_mem (c.toNat / 16)
    have low := hexDigit_not_mem (c.toNat % 16)
    constructor
    · change Scan.run ⟨.string, brackets⟩ (hexDigit _ :: hexDigit _ :: rest) = _
      rw [run_string_char high, run_string_char low]
    · simp only [List.mem_cons, not_or] at high low ⊢
      exact ⟨by decide, by decide, by decide, by decide, Ne.symm high.2.2.1, Ne.symm low.2.2.1,
        List.not_mem_nil⟩
  · next quote backslash _ _ line _ _ _ =>
    have inside : c ∉ ['"', '\\', '\n'] := by
      simp only [List.mem_cons, not_or]
      exact ⟨quote, backslash, line, List.not_mem_nil⟩
    exact ⟨run_string_char inside brackets rest, by simpa using Ne.symm line⟩

theorem run_escaped (cs : List Char) (brackets : List Bracket) (rest : List Char) :
    Scan.run ⟨.string, brackets⟩ (cs.flatMap escapeChar ++ rest) =
      Scan.run ⟨.string, brackets⟩ rest := by
  induction cs with
  | nil => rfl
  | cons c tail ih =>
    rw [List.flatMap_cons, List.append_assoc, (escapeChar_inside c brackets _).1, ih]

/-- Whatever a string holds, its literal is skipped as a whole. -/
theorem quote_moves (s : String) : Moves lines [] (quote s) [] := by
  constructor
  · intro outer
    rw [quote, String.toList_ofList]
    change Scan.run ⟨.string, outer⟩ (s.toList.flatMap escapeChar ++ ['"']) = _
    rw [run_escaped]
    rfl
  · intro _ member
    rw [quote, String.toList_ofList, quoteChars, List.mem_cons, List.mem_append,
      List.mem_flatMap] at member
    rcases member with opening | ⟨c, -, escaped⟩ | closing
    · exact absurd opening (by decide)
    · exact (escapeChar_inside c [] []).2 escaped
    · exact absurd closing (by decide)

/-- The characters of a name without quotes are plain. -/
theorem propertyName_moves (name : String) : Moves lines [] (propertyName name) [] := by
  unfold propertyName
  by_cases bare : isBareName name = true
  · rw [if_pos bare]
    obtain ⟨first, rest, letters, starts, continues⟩ := isBareName_cons bare
    have plain : IsPlain name := by
      refine IsPlain.of_all (p := fun c => isNameStart c || c.isDigit) (by decide) fun c member => ?_
      rw [letters] at member
      rcases List.mem_cons.mp member with rfl | later
      · rw [starts, Bool.true_or]
      · exact continues c later
    exact plain.moves
  · rw [if_neg bare]
    exact quote_moves name

end Text

/-! ## Numbers -/

/-- A digit, or a mark within a number. -/
def isNumberChar (c : Char) : Bool := c.isDigit || c ∈ ['.', 'e', '+', '-']

theorem isPlain_of_numberChars {text : String} (all : ∀ c ∈ text.toList, isNumberChar c = true) :
    IsPlain text :=
  IsPlain.of_all (by decide) all

theorem isNumberChar_of_digit {c : Char} (digit : c.isDigit = true) : isNumberChar c = true := by
  rw [isNumberChar, digit, Bool.true_or]

theorem isNumberChar_toDigits {n : Nat} {c : Char} (member : c ∈ Nat.toDigits 10 n) :
    isNumberChar c = true :=
  isNumberChar_of_digit (Nat.isDigit_of_mem_toDigits (by decide) (by decide) member)

namespace Double

theorem digitText_plain (n : Nat) : IsPlain (digitText n) := by
  refine isPlain_of_numberChars fun c member => ?_
  rw [digitText, String.toList_ofList] at member
  exact isNumberChar_toDigits member

theorem zeros_plain (n : Nat) : IsPlain (zeros n) := by
  refine isPlain_of_numberChars fun c member => ?_
  rw [zeros, String.toList_ofList] at member
  rw [List.eq_of_mem_replicate member]
  rfl

theorem exponentText_plain (exponent : Int) : IsPlain (exponentText exponent) := by
  unfold exponentText
  split
  · exact IsPlain.append (by decide) (digitText_plain _)
  · exact IsPlain.append (by decide) (digitText_plain _)

/-- Some of the digits of a number. -/
theorem someDigits_plain {n : Nat} {cs : List Char} (some : cs ⊆ Nat.toDigits 10 n) :
    IsPlain (String.ofList cs) := by
  refine isPlain_of_numberChars fun c member => ?_
  rw [String.toList_ofList] at member
  exact isNumberChar_toDigits (some member)

theorem scientific_plain (d : Decimal) : IsPlain (scientific d) := by
  have first : IsPlain (String.ofList ((Nat.toDigits 10 d.digits).take 1)) :=
    someDigits_plain (List.take_subset _ _)
  have fraction : IsPlain (String.ofList (Nat.toDigits 10 d.digits).tail) :=
    someDigits_plain (List.tail_sublist _).subset
  unfold scientific
  refine (first.append ?_).append (exponentText_plain _)
  split
  · decide
  · exact IsPlain.append (by decide) fraction

theorem positional_plain (markIntegers : Bool) (d : Decimal) :
    IsPlain (positional markIntegers d) := by
  have part {cs : List Char} (some : cs ⊆ Nat.toDigits 10 d.digits) : IsPlain (String.ofList cs) :=
    someDigits_plain some
  unfold positional
  split
  · refine ((part (List.Subset.refl _)).append (zeros_plain _)).append ?_
    split <;> decide
  · dsimp only
    split
    · exact ((part (List.take_subset _ _)).append (by decide)).append (part (List.drop_subset _ _))
    · exact (IsPlain.append (by decide) (zeros_plain _)).append (part (List.Subset.refl _))

theorem write_plain (form : Spelling) (d : Decimal) : IsPlain (form.write d) := by
  unfold Spelling.write
  dsimp only
  split
  · exact positional_plain _ d
  · exact scientific_plain d

theorem text_plain (x : Double) : IsPlain x.text := by
  unfold text
  split
  · decide
  · split <;> decide
  · split
    · decide
    · refine IsPlain.append ?_ (write_plain _ _)
      split <;> decide

end Double

theorem toString_int_plain (n : Int) : IsPlain (toString n) := by
  refine isPlain_of_numberChars fun c member => ?_
  rcases digit_of_mem_toString_int member with rfl | digit
  · rfl
  · exact isNumberChar_of_digit digit

theorem toString_nat_plain (n : Nat) : IsPlain (toString n) := by
  rw [← Double.toString_ofNat]
  exact toString_int_plain n

theorem bigintText_plain (n : Int) : IsPlain (bigintText n) :=
  (toString_int_plain n).append (by decide)

namespace Numeral

theorem powerText_plain {suffix : String} (plain : IsPlain suffix) (k : Nat) :
    IsPlain (text.powerText suffix k) :=
  (((IsPlain.append (by decide) plain).append (by decide)).append (toString_nat_plain k)).append
    plain

/-- A symbolic spelling has parentheses only around the predecessor of a power. -/
theorem text_moves {suffix : String} (plain : IsPlain suffix) (spelling : Numeral) :
    Moves lines [] (spelling.text suffix) [] := by
  have less (k : Nat) : IsPlain (text.powerText suffix k ++ " - 1" ++ suffix) :=
    ((powerText_plain plain k).append (by decide)).append plain
  cases spelling with
  | maxSafe =>
    have name : IsPlain "Number.MAX_SAFE_INTEGER" := by decide
    exact name.moves
  | minSafe =>
    have name : IsPlain "Number.MIN_SAFE_INTEGER" := by decide
    exact name.moves
  | power k => exact (powerText_plain plain k).moves
  | powerLessOne k => exact (less k).moves
  | negatedPower k => exact (IsPlain.append (by decide) (powerText_plain plain k)).moves
  | negatedPowerLessOne k =>
    have opening : Moves lines [] "-(" [.round] := .fixed (by decide)
    have closing : Moves lines [.round] ")" [] := .fixed (by decide)
    have whole := (opening.append ((less k).moves.between_brackets [.round])).append closing
    simpa only [text, String.append_assoc] using whole

end Numeral

section Bounds

variable (o : Optimizations)

theorem numberText_moves (x : Double) : Moves lines [] (o.numberText x) [] := by
  unfold Optimizations.numberText Double.symbolicText
  split
  · split
    · exact Numeral.text_moves (by decide) _
    · exact x.text_plain.moves
  · exact x.text_plain.moves

theorem bigintText_moves (n : Int) : Moves lines [] (o.bigintText n) [] := by
  unfold Optimizations.bigintText symbolicBigintText
  split
  · split
    · exact Numeral.text_moves (by decide) _
    · exact (bigintText_plain n).moves
  · exact (bigintText_plain n).moves

end Bounds

/-! ## JSON -/

namespace Json

theorem doubleText_plain (x : Double) : IsPlain (doubleText x) := by
  unfold doubleText
  split
  · refine IsPlain.append ?_ ?_
    · split <;> decide
    · split
      · decide
      · exact Double.write_plain _ _
  · decide

/-- Texts in brackets with commas between them. -/
theorem enclosed_moves (bracket : Bracket) {opening closing separator : String}
    (opens : Moves lines [] opening [bracket]) (closes : Moves lines [bracket] closing [])
    (between : IsPlain separator) {texts : List String}
    (each : ∀ text ∈ texts, Moves lines [] text []) :
    Moves lines [] (opening ++ separator.intercalate texts ++ closing) [] :=
  (opens.append ((Moves.intercalate between.moves each).between_brackets [bracket])).append closes

mutual

theorem text_moves (json : Json) : Moves lines [] json.text [] := by
  cases json with
  | null => exact .fixed (by decide)
  | bool value => cases value <;> exact .fixed (by decide)
  | int value => exact (toString_int_plain value).moves
  | double value => exact (doubleText_plain value).moves
  | string value => exact quote_moves value
  | array items =>
    exact enclosed_moves .square (.fixed (by decide)) (.fixed (by decide)) (by decide)
      (itemTexts_move items)
  | object members =>
    exact enclosed_moves .curly (.fixed (by decide)) (.fixed (by decide)) (by decide)
      (memberTexts_move members)

theorem itemTexts_move (items : List Json) : ∀ text ∈ itemTexts items, Moves lines [] text [] := by
  intro text member
  cases items with
  | nil => cases member
  | cons item rest =>
    rw [itemTexts, List.mem_cons] at member
    rcases member with rfl | later
    · exact text_moves item
    · exact itemTexts_move rest text later

theorem memberTexts_move (members : List (String × Json)) :
    ∀ text ∈ memberTexts members, Moves lines [] text [] := by
  intro text member
  cases members with
  | nil => cases member
  | cons first rest =>
    obtain ⟨key, value⟩ := first
    rw [memberTexts, List.mem_cons] at member
    rcases member with rfl | later
    · exact ((quote_moves key).append (.fixed (by decide))).append (text_moves value)
    · exact memberTexts_move rest text later

end

end Json

namespace Value

theorem jsonText?_moves {value : Value} {text : String} (has : value.jsonText? = some text) :
    Moves lines [] text [] := by
  obtain ⟨json, -, rfl⟩ := Option.map_eq_some_iff.mp has
  exact json.text_moves

/-- The JSON text of a value, or a fixed text where there is none. -/
theorem jsonText?_getD_moves (value : Option Value) {missing : String}
    (fixed : Moves lines [] missing []) :
    Moves lines [] ((value.bind Value.jsonText?).getD missing) [] := by
  cases has : value.bind Value.jsonText? with
  | none => exact fixed
  | some text =>
    obtain ⟨value, -, has⟩ := Option.bind_eq_some_iff.mp has
    exact jsonText?_moves has

theorem jsonTextOrUndefined_moves (value : Value) : Moves lines [] value.jsonTextOrUndefined [] :=
  jsonText?_getD_moves (some value) (.fixed (by decide))

theorem primitiveText?_moves {value : Value} {text : String}
    (has : value.primitiveText? = some text) : Moves lines [] text [] := by
  unfold primitiveText? at has
  split at has
  · exact jsonText?_moves has
  · exact jsonText?_moves has
  · exact jsonText?_moves has
  · exact jsonText?_moves has
  · cases has

end Value
end SchemaSource
