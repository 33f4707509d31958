import SchemaSource.Numeral
import SchemaSource.Proofs.IntegerText
/-!
Integers as bounds spell them: by their digits, or by the symbol of a well known bound. The spelling
is data, so that what a bound says can be told from the text that says it.
-/
namespace SchemaSource

inductive Spelling where
  | digits (n : Int)
  | symbol (numeral : Numeral)

namespace Spelling

/-- The text of a spelling whose literals all carry a suffix. -/
def text (suffix : String) : Spelling → String
  | .digits n => toString n ++ suffix
  | .symbol numeral => numeral.text suffix

/-- The integer that a spelling stands for. -/
def value : Spelling → Int
  | .digits n => n
  | .symbol numeral => numeral.value

/-- An integer as options spell it, given the symbols there are. -/
def choose (o : Optimizations) (symbols : List Numeral) (n : Int) : Spelling :=
  if o.scientificNotation then
    match Numeral.find? symbols n with
    | some numeral => .symbol numeral
    | none => .digits n
  else .digits n

theorem value_choose (o : Optimizations) (symbols : List Numeral) (n : Int) :
    (choose o symbols n).value = n := by
  unfold choose
  split
  · cases found : Numeral.find? symbols n with
    | none => rfl
    | some numeral =>
      have same : numeral.value = n := by simpa using List.find?_some found
      exact same
  · rfl

end Spelling

theorem Optimizations.numberText_eq (o : Optimizations) {x : Double} {n : Int}
    (integer : x.integer? = some n) (small : n.natAbs ≤ 2 ^ 53) :
    o.numberText x = (Spelling.choose o Numeral.ofNumber n).text "" := by
  have plain : x.text = (Spelling.digits n).text "" :=
    (Double.text_eq_toString integer small).trans (String.append_empty).symm
  unfold Optimizations.numberText Spelling.choose
  split
  · rw [Double.symbolicText, integer, Option.bind_some]
    cases Numeral.find? Numeral.ofNumber n with
    | none => exact plain
    | some numeral => rfl
  · exact plain

theorem Optimizations.bigintText_eq (o : Optimizations) (n : Int) :
    o.bigintText n = (Spelling.choose o Numeral.ofBigint n).text "n" := by
  unfold Optimizations.bigintText Spelling.choose
  split
  · rw [symbolicBigintText]
    cases Numeral.find? Numeral.ofBigint n <;> rfl
  · rfl

end SchemaSource
