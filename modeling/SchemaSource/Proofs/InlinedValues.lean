import SchemaSource.Proofs.Faults
import SchemaSource.Proofs.NumberLiteral
import SchemaSource.Proofs.Views
/-!
Values written into the call that stores them. A schema with a default or a recovery value shows it
as an expression, which evaluates to the stored value: strings and booleans exactly, and numbers
numerically. Only for infinite numbers and not-a-number another value is written.
-/
namespace SchemaSource

namespace Script

/-! ## Strings -/

theorem hexDigit?_hexDigit {n : Nat} (small : n < 16) : hexDigit? (Text.hexDigit n) = some n := by
  have each : ∀ n < 16, hexDigit? (Text.hexDigit n) = some n := by decide
  exact each n small

theorem codePoint?_of_small {c : Char} (small : c.toNat < 256) :
    codePoint? ['0', '0', Text.hexDigit (c.toNat / 16), Text.hexDigit (c.toNat % 16)] = some c := by
  have zero : hexDigit? '0' = some 0 := rfl
  have high := hexDigit?_hexDigit (show c.toNat / 16 < 16 by omega)
  have low := hexDigit?_hexDigit (show c.toNat % 16 < 16 by omega)
  have valid : c.toNat.isValidChar := c.valid
  simp [codePoint?, zero, high, low, Nat.div_add_mod, valid]

/-- A character is read back from its escape. -/
theorem letters?_escapeChar (c : Char) (text : List Char) :
    letters? '"' (Text.escapeChar c ++ text) =
      (letters? '"' text).map fun (letters, rest) => (c :: letters, rest) := by
  have named (letter : Char) (escape : escaped? letter = some c) (short : letter ≠ 'u') :
      letters? '"' (['\\', letter] ++ text) =
        (letters? '"' text).map fun (letters, rest) => (c :: letters, rest) := by
    change letters? '"' ('\\' :: letter :: text) = _
    rw [letters?]
    · rw [escape]
      cases letters? '"' text <;> rfl
    · intro a b c d rest long
      exact absurd long short
  unfold Text.escapeChar
  split
  next h => exact named '"' (by rw [h]; rfl) (by decide)
  split
  next h => exact named '\\' (by rw [h]; rfl) (by decide)
  split
  next h => exact named 'b' (by rw [h]; rfl) (by decide)
  split
  next h => exact named 't' (by rw [h]; rfl) (by decide)
  split
  next h => exact named 'n' (by rw [h]; rfl) (by decide)
  split
  next h => exact named 'f' (by rw [h]; rfl) (by decide)
  split
  next h => exact named 'r' (by rw [h]; rfl) (by decide)
  split
  next small =>
    rw [List.cons_append]
    simp only [List.cons_append, List.nil_append, letters?,
      codePoint?_of_small (show c.toNat < 256 by omega)]
    cases letters? '"' text <;> rfl
  next notQuote notSlash _ _ notFeed _ notReturn _ =>
    have plain : c ∉ ['\\', '\n', '\r'] := by simp [notSlash, notFeed, notReturn]
    rw [List.singleton_append, letters?]
    · rw [if_neg notQuote, if_neg plain]
      cases letters? '"' text <;> rfl
    · intro a b d e rest slash
      exact absurd slash notSlash
    · intro d rest slash
      exact absurd slash notSlash

theorem letters?_quoted (cs rest : List Char) :
    letters? '"' (cs.flatMap Text.escapeChar ++ '"' :: rest) = some (cs, rest) := by
  induction cs with
  | nil => rfl
  | cons c cs ih =>
    rw [List.flatMap_cons, List.append_assoc, letters?_escapeChar, ih]
    rfl

/-- A quoted string is an expression for that string. -/
theorem evaluates_quote (s : String) : Evaluates (Text.quote s) (.string s) := by
  have letters := letters?_quoted s.toList []
  have token : token? (Text.quote s).toList = some (.literal (.string s), []) := by
    have quote : token? ('"' :: (s.toList.flatMap Text.escapeChar ++ ['"'])) =
        (letters? '"' (s.toList.flatMap Text.escapeChar ++ ['"'])).map fun (letters, rest) =>
          (.literal (.string (String.ofList letters)), rest) := rfl
    rw [Text.quote, String.toList_ofList, Text.quoteChars, quote, letters]
    simp
  exact evaluates_unary (.token token .done) (.operand (.literal _)) rfl

/-! ## Numbers -/

theorem text_ofDouble_of_not_finite {x : Double} (infinite : x.isFinite = false) :
    (Json.ofDouble x).text = "null" := by
  rw [Json.ofDouble, infinite]
  rfl

/-- JSON has the source text of small integers only. -/
theorem text_ofDouble_of_integer {x : Double} {k : Int} (integer : x.integer? = some k) :
    (Json.ofDouble x).text = if k.natAbs < 2 ^ 53 then x.text else Json.doubleText x := by
  rw [Json.ofDouble, Double.isFinite_of_integer? integer, integer]
  simp only [Bool.not_true, Bool.false_eq_true, ↓reduceIte]
  split
  next small =>
    rw [Double.text_eq_toString integer small.le]
    rfl
  next => rfl

/-- A number with digits of its own in JSON is an expression there as well. -/
theorem evaluates_doubleText {x : Double} (finite : x.isFinite = true)
    (nonzero : x.isZero = false) :
    Evaluates (Json.doubleText x) (.number (withoutZeroSign x)) := by
  cases x with
  | nan => cases finite
  | infinite negative => cases finite
  | finite negative mantissa exponent canonical =>
    have some : mantissa ≠ 0 := by simpa [Double.isZero] using nonzero
    rw [withoutZeroSign, nonzero, if_neg Bool.false_ne_true, Json.doubleText, if_neg some]
    exact evaluates_signed canonical some _ _ negative

/-- The JSON text of a finite number is an expression for it. -/
theorem evaluates_ofDouble {x : Double} (finite : x.isFinite = true) :
    Evaluates (Json.ofDouble x).text (.number (withoutZeroSign x)) := by
  cases integer : x.integer? with
  | none =>
    have nonzero : x.isZero = false := by
      rw [Bool.eq_false_iff]
      intro zero
      rw [integer?_of_isZero zero] at integer
      cases integer
    rw [Json.ofDouble, finite, integer]
    exact evaluates_doubleText finite nonzero
  | some k =>
    rw [text_ofDouble_of_integer integer]
    split
    next => exact evaluates_text x
    next large =>
      have nonzero : x.isZero = false := by
        rw [Bool.eq_false_iff]
        intro zero
        rw [integer?_of_isZero zero, Option.some.injEq] at integer
        exact large (integer ▸ by decide)
      exact evaluates_doubleText finite nonzero

theorem evaluates_null : Evaluates "null" .null :=
  evaluates_unary (.token rfl .done) (.operand (.named rfl)) rfl

end Script

/-! ## Stored values -/

namespace Value

/-- What one word can stand for. -/
def IsPrimitive : Value → Prop
  | .string _ | .number _ | .bool _ | .null => True
  | _ => False

/-- A number without digits: an infinite one, or none at all. -/
def IsBeyondDigits : Value → Prop
  | .number x => x.isFinite = false
  | _ => False

instance (value : Value) : Decidable value.IsBeyondDigits := by
  unfold IsBeyondDigits
  split <;> infer_instance

/-- The same value, where numbers compare numerically and not-a-number agrees with itself. -/
def Agrees : Value → Value → Prop
  | .number x, .number y => x.equal y = true ∨ (x.isNaN = true ∧ y.isNaN = true)
  | value, other => value = other

theorem agrees_withoutZeroSign (x : Double) :
    (number (Script.withoutZeroSign x)).Agrees (.number x) := by
  by_cases zero : x.isZero = true
  · left
    have number : (Double.zero false).isNaN = false := rfl
    have plain : (Double.zero false).isZero = true := rfl
    rw [Script.withoutZeroSign, if_pos zero]
    simp [Double.equal, number, plain, zero]
  · rw [Script.withoutZeroSign, if_neg zero]
    cases nan : x.isNaN with
    | true => exact .inr ⟨nan, nan⟩
    | false => exact .inl (by simp [Double.equal, nan])

/-- The text of a primitive value agrees with it, where the value has digits. -/
theorem primitiveText?_agrees {value : Value} (primitive : value.IsPrimitive) :
    ∃ text, value.primitiveText? = some text ∧ (value.IsBeyondDigits → text = "null") ∧
      (¬value.IsBeyondDigits → ∃ result, Script.Evaluates text result ∧ result.Agrees value) := by
  cases value with
  | string s => exact ⟨_, rfl, nofun, fun _ => ⟨_, Script.evaluates_quote s, rfl⟩⟩
  | number x =>
    refine ⟨_, rfl, fun infinite => Script.text_ofDouble_of_not_finite infinite, fun finite => ?_⟩
    exact ⟨_, Script.evaluates_ofDouble (by simpa [IsBeyondDigits] using finite),
      agrees_withoutZeroSign x⟩
  | bool b =>
    refine ⟨_, rfl, nofun, fun _ => ⟨.bool b, ?_, rfl⟩⟩
    cases b <;> exact Script.evaluates_unary (.token rfl .done) (.operand (.named rfl)) rfl
  | null => exact ⟨_, rfl, nofun, fun _ => ⟨_, Script.evaluates_null, rfl⟩⟩
  | undefined | bigint | date | regexp | array | object | function => cases primitive

end Value

namespace Rule.Fallback

/-- The kind of schema that holds such a value. -/
def schemaKind : Fallback → Kind
  | .default => .default
  | .recovery => .recovery

/-- How the call ends that a schema makes of a function. -/
def outcome (fallback : Fallback) (called recovering : Outcome) : Outcome :=
  match fallback with
  | .default => called
  | .recovery => recovering

/-- A value is stored as it is, or behind a function that returns it. -/
inductive Stores (fallback : Fallback) (value : Value) : Value → Prop where
  | value : Stores fallback value value
  | getter {called recovering : Outcome}
      (returned : fallback.outcome called recovering = .returns value) :
      Stores fallback value (.function called recovering)

theorem argument_of_stores {fallback : Fallback} {value stored : Value}
    (stores : fallback.Stores value stored) {text : String}
    (primitive : value.primitiveText? = some text) : fallback.argument (some stored) = text := by
  cases stores with
  | value =>
    cases value with
    | string | number | bool | null =>
      exact congrArg (Option.getD · "/* non-serializable value */") primitive
    | undefined | bigint | date | regexp | array | object | function => cases primitive
  | getter returned =>
    have called : ofOutcome (.returns value) = text :=
      congrArg (Option.getD · "/* function */") primitive
    rw [← called, ← returned]
    cases fallback <;> rfl

end Rule.Fallback

open Rule in
/-- **An inlined value is the stored one.** A schema with a default or a recovery value is written
as its inner schema with a call, whether the value is stored as it is or behind a function. The
argument of the call evaluates to the value, just if that is neither infinite nor not-a-number: for
these it is `null`. -/
theorem Renderer.render_fallback {version : Version} {node inner stored value : Value}
    {fallback : Fallback}
    (known : version.dialect.kind? node = some fallback.schemaKind)
    (wraps : (definitionIn version.dialect node).fields.get? "innerType" = some inner)
    (object : inner.isObject = true)
    (holds : (definitionIn version.dialect node).fields.get? fallback.key = some stored)
    (stores : fallback.Stores value stored) (primitive : value.IsPrimitive) :
    ∃ argument,
      (∀ options, (ofVersion version).render options node =
        ((ofVersion version).render options inner).map
          (· ++ ("." ++ fallback.method ++ "(" ++ argument ++ ")"))) ∧
      (value.IsBeyondDigits → argument = "null") ∧
      ((∃ result, Script.Evaluates argument result ∧ result.Agrees value) ↔
        ¬value.IsBeyondDigits) := by
  obtain ⟨argument, text, beyond, agrees⟩ := Value.primitiveText?_agrees primitive
  obtain ⟨recognized, tagged⟩ := Dialect.of_kind? known
  have rule : fallback.schemaKind.rule = Rule.fallback fallback := by cases fallback <;> rfl
  refine ⟨argument, fun options => ?_, beyond, ?_, agrees⟩
  · rw [render_eq_textAt, textAt_of_kind recognized tagged, rule,
      Rule.view_fallback fallback wraps object holds, Fallback.argument_of_stores stores text]
    change Template.print options _ (fun child l => textAt version.dialect options l child) _ = _
    rw [Template.print, render_eq_textAt]
    cases textAt version.dialect options options.indentLevel inner with
    | error fault => rfl
    | ok text => exact congrArg (fun end' => Except.ok (text ++ end')) String.append_empty
  · rintro ⟨result, evaluated, same⟩ infinite
    rw [beyond infinite] at evaluated
    obtain rfl := evaluated.unique Script.evaluates_null
    cases value with
    | number => cases same
    | string | bool | null | undefined | bigint | date | regexp | array | object | function =>
      cases infinite

/-- A quotation mark that is only found by the call for a failed parse. -/
theorem Renderer.render_fallback_recovering :
    let inner := SchemaSource.node .v4 "String" "string" []
    let stored := Value.function (.throws "no input") (.returns (.string "\""))
    let node := SchemaSource.node .v4 "Catch" "catch" [("innerType", inner), ("catchValue", stored)]
    let definition := definitionIn Version.v4.dialect node
    (Version.v4.dialect.kind? node = some Rule.Fallback.recovery.schemaKind ∧
      definition.fields.get? "innerType" = some inner ∧ inner.isObject = true ∧
      definition.fields.get? "catchValue" = some stored ∧
      Rule.Fallback.recovery.Stores (.string "\"") stored ∧
      (Value.string "\"").IsPrimitive) ∧
    ∃ argument,
      (∀ options, (ofVersion .v4).render options node =
        ((ofVersion .v4).render options inner).map (· ++ (".catch(" ++ argument ++ ")"))) ∧
      ∃ result, Script.Evaluates argument result ∧ result.Agrees (.string "\"") := by
  intro inner stored node definition
  have known : Version.v4.dialect.kind? node = some Rule.Fallback.recovery.schemaKind := rfl
  have held : definition.fields.get? "innerType" = some inner := rfl
  have stores : Rule.Fallback.recovery.Stores (.string "\"") stored := .getter rfl
  obtain ⟨argument, text, -, agrees⟩ := render_fallback known held rfl rfl stores trivial
  refine ⟨⟨known, rfl, rfl, rfl, stores, trivial⟩, argument, ?_, agrees.mpr id⟩
  intro options
  exact text options

end SchemaSource
