import Mathlib.Data.List.Forall2
import SchemaSource.Proofs.Children
/-!
Values that differ at most in what their functions do. Three properties hold functions that are
called, and those have to answer alike as far as the answer is used; what any other function does
cannot be told from what is written for the value.
-/
namespace SchemaSource

/-- A value that fits in one word of source text. -/
def Value.isWord : Value → Bool
  | .string _ | .number _ | .bool _ | .null => true
  | _ => false

/-- The word that a call returns. A failure and any other value are alike in that they are none. -/
def Outcome.word? : Outcome → Option Value
  | .returns value => if value.isWord then some value else none
  | .throws _ => none

mutual

/-- Two values with the same data: equal but for their functions. -/
inductive Value.SameData : Value → Value → Prop
  | refl (v : Value) : Value.SameData v v
  | array {xs ys : List Value} (items : Value.SameItems xs ys) :
      Value.SameData (.array xs) (.array ys)
  | object {fs gs : List (String × Value)} (fields : Fields.SameData fs gs) :
      Value.SameData (.object fs) (.object gs)
  | function (called recovering called' recovering' : Outcome) :
      Value.SameData (.function called recovering) (.function called' recovering')

/-- Lists of values with the same data. -/
inductive Value.SameItems : List Value → List Value → Prop
  | nil : Value.SameItems [] []
  | cons {v w : Value} {xs ys : List Value} (first : Value.SameData v w)
      (rest : Value.SameItems xs ys) : Value.SameItems (v :: xs) (w :: ys)

/-- The same names in the same order, with the same data under each. -/
inductive Fields.SameData : List (String × Value) → List (String × Value) → Prop
  | nil : Fields.SameData [] []
  | cons {key : String} {v w : Value} {fs gs : List (String × Value)}
      (first : Value.SameUnder key v w) (rest : Fields.SameData fs gs) :
      Fields.SameData ((key, v) :: fs) ((key, w) :: gs)

/-- The same data in a property of this name, where a function may be called. -/
inductive Value.SameUnder : String → Value → Value → Prop
  | data {key : String} {v w : Value} (plain : v.isFunction = false) (same : Value.SameData v w) :
      Value.SameUnder key v w
  | shape {called called' recovering recovering' : Outcome}
      (same : Outcome.SameData called called') :
      Value.SameUnder "shape" (.function called recovering) (.function called' recovering')
  | default {called called' recovering recovering' : Outcome}
      (same : called.word? = called'.word?) :
      Value.SameUnder "defaultValue" (.function called recovering) (.function called' recovering')
  | recovery {called called' recovering recovering' : Outcome}
      (same : recovering.word? = recovering'.word?) :
      Value.SameUnder "catchValue" (.function called recovering) (.function called' recovering')
  | unread {key : String} {called called' recovering recovering' : Outcome}
      (other : key ∉ ["shape", "defaultValue", "catchValue"]) :
      Value.SameUnder key (.function called recovering) (.function called' recovering')

/-- Calls that throw the same message, or return the same data. -/
inductive Outcome.SameData : Outcome → Outcome → Prop
  | returns {v w : Value} (same : Value.SameData v w) :
      Outcome.SameData (.returns v) (.returns w)
  | throws (message : String) : Outcome.SameData (.throws message) (.throws message)

end

theorem Outcome.SameData.refl (outcome : Outcome) : outcome.SameData outcome := by
  cases outcome with
  | returns value => exact .returns (.refl value)
  | throws message => exact .throws message

namespace Value

theorem SameUnder.refl (key : String) (v : Value) : SameUnder key v v := by
  by_cases shape : key = "shape"
  · subst shape
    cases v with
    | function called recovering => exact .shape (.refl called)
    | _ => exact .data rfl (.refl _)
  by_cases default : key = "defaultValue"
  · subst default
    cases v with
    | function called recovering => exact .default rfl
    | _ => exact .data rfl (.refl _)
  by_cases recovery : key = "catchValue"
  · subst recovery
    cases v with
    | function called recovering => exact .recovery rfl
    | _ => exact .data rfl (.refl _)
  · cases v with
    | function called recovering => exact .unread (by simp [shape, default, recovery])
    | _ => exact .data rfl (.refl _)

theorem SameItems.refl (items : List Value) : SameItems items items := by
  induction items with
  | nil => exact .nil
  | cons item rest ih => exact .cons (.refl item) ih

/-- Under a name, functions answer alike where they are called. -/
theorem SameUnder.data_or_function {key : String} {v w : Value} (same : SameUnder key v w) :
    v.isFunction = false ∧ v.SameData w ∨
      ∃ called recovering called' recovering',
        v = .function called recovering ∧ w = .function called' recovering' ∧
        (key = "shape" → called.SameData called') ∧
        (key = "defaultValue" → called.word? = called'.word?) ∧
        (key = "catchValue" → recovering.word? = recovering'.word?) := by
  cases same with
  | data plain same => exact .inl ⟨plain, same⟩
  | shape same =>
    exact .inr ⟨_, _, _, _, rfl, rfl, fun _ => same, by simp, by simp⟩
  | default same =>
    exact .inr ⟨_, _, _, _, rfl, rfl, by simp, fun _ => same, by simp⟩
  | recovery same =>
    exact .inr ⟨_, _, _, _, rfl, rfl, by simp, by simp, fun _ => same⟩
  | unread other =>
    simp only [List.mem_cons, List.not_mem_nil, or_false, not_or] at other
    obtain ⟨shape, default, recovery⟩ := other
    exact .inr ⟨_, _, _, _, rfl, rfl, fun h => absurd h shape, fun h => absurd h default,
      fun h => absurd h recovery⟩

theorem SameUnder.same {key : String} {v w : Value} (same : SameUnder key v w) :
    SameData v w := by
  cases same with
  | data _ same => exact same
  | _ => exact .function ..

end Value

theorem Fields.SameData.refl (fields : Fields) : Fields.SameData fields fields := by
  induction fields with
  | nil => exact .nil
  | cons field rest ih => exact .cons (.refl _ _) ih

/-! ## What is read off a value -/

namespace Value.SameData

variable {v w : Value} (same : Value.SameData v w)
include same

theorem countsAsTrue : v.countsAsTrue = w.countsAsTrue := by cases same <;> rfl

theorem isObject : v.isObject = w.isObject := by cases same <;> rfl

theorem isFunction : v.isFunction = w.isFunction := by cases same <;> rfl

theorem isUndefined : v.isUndefined = w.isUndefined := by cases same <;> rfl

theorem isNothing : v.isNothing = w.isNothing := by cases same <;> rfl

theorem kindName : v.kindName = w.kindName := by cases same <;> rfl

theorem string? : v.string? = w.string? := by cases same <;> rfl

theorem bool? : v.bool? = w.bool? := by cases same <;> rfl

theorem number? : v.number? = w.number? := by cases same <;> rfl

theorem bigint? : v.bigint? = w.bigint? := by cases same <;> rfl

theorem items? : Option.Rel SameItems v.items? w.items? := by
  cases same with
  | refl =>
    cases v.items? with
    | none => exact .none
    | some items => exact .some (.refl items)
  | array items => exact .some items
  | object | function => exact .none

theorem fields? : Option.Rel Fields.SameData v.fields? w.fields? := by
  cases same with
  | refl =>
    cases v.fields? with
    | none => exact .none
    | some fields => exact .some (.refl fields)
  | object fields => exact .some fields
  | array | function => exact .none

end Value.SameData

/-! ## Text -/

mutual

theorem Value.SameData.toJson? {v w : Value} (same : Value.SameData v w) :
    v.toJson? = w.toJson? := by
  cases same with
  | refl => rfl
  | array items => simp only [Value.toJson?, items.itemsToJson]
  | object fields => simp only [Value.toJson?, fields.fieldsToJson]
  | function => rfl

theorem Value.SameItems.itemsToJson {xs ys : List Value} (same : Value.SameItems xs ys) :
    Value.itemsToJson xs = Value.itemsToJson ys := by
  cases same with
  | nil => rfl
  | cons first rest => simp only [Value.itemsToJson, first.toJson?, rest.itemsToJson]

theorem Fields.SameData.fieldsToJson {fs gs : Fields} (same : Fields.SameData fs gs) :
    Value.fieldsToJson fs = Value.fieldsToJson gs := by
  cases same with
  | nil => rfl
  | cons first rest => simp only [Value.fieldsToJson, first.same.toJson?, rest.fieldsToJson]

end

namespace Value.SameData

variable {v w : Value} (same : Value.SameData v w)
include same

theorem jsonText? : v.jsonText? = w.jsonText? := congrArg (Option.map Json.text) same.toJson?

theorem jsonTextOrUndefined : v.jsonTextOrUndefined = w.jsonTextOrUndefined :=
  congrArg (Option.getD · "undefined") same.jsonText?

theorem primitiveText? : v.primitiveText? = w.primitiveText? := by cases same <;> rfl

theorem boundText (o : Optimizations) : o.boundText v = o.boundText w := by
  have text := same.jsonTextOrUndefined
  cases same with
  | array | object => exact text
  | refl | function => rfl

theorem literalText : Rule.literalText v = Rule.literalText w := by
  have text := same.jsonTextOrUndefined
  cases same with
  | array | object => exact text
  | refl | function => rfl

theorem bigintBound (o : Optimizations) :
    Rule.bigintBound o (some v) = Rule.bigintBound o (some w) := by
  have text := same.boundText o
  cases same with
  | refl => rfl
  | array | object | function => exact text

theorem dateText : Rule.dateText (some v) = Rule.dateText (some w) := by cases same <;> rfl

end Value.SameData

/-! ## Fields -/

section Options

variable {α β γ : Type} {r : α → β → Prop} {x x' : Option α} {y y' : Option β}

/-- Options that are related are both there or both missing. -/
@[elab_as_elim]
theorem related_cases {motive : Option α → Option β → Prop} (related : Option.Rel r x y)
    (missing : motive none none) (present : ∀ a b, r a b → motive (some a) (some b)) :
    motive x y := by
  cases related with
  | none => exact missing
  | some each => exact present _ _ each

theorem related_imp {s : α → β → Prop} (related : Option.Rel r x y)
    (weaker : ∀ {a b}, r a b → s a b) : Option.Rel s x y := by
  cases related with
  | none => exact .none
  | some each => exact .some (weaker each)

theorem related_filter (related : Option.Rel r x y) {p : α → Bool} {q : β → Bool}
    (alike : ∀ {a b}, r a b → p a = q b) : Option.Rel r (x.filter p) (y.filter q) := by
  cases related with
  | none => exact .none
  | some each =>
    rw [Option.filter_some, Option.filter_some, alike each]
    split
    · exact .some each
    · exact .none

theorem related_orElse (first : Option.Rel r x y) (second : Option.Rel r x' y') :
    Option.Rel r (x <|> x') (y <|> y') := by
  cases first with
  | none => exact second
  | some each => exact .some each

theorem related_bind {δ : Type} {s : γ → δ → Prop} (related : Option.Rel r x y)
    {f : α → Option γ} {g : β → Option δ} (each : ∀ {a b}, r a b → Option.Rel s (f a) (g b)) :
    Option.Rel s (x.bind f) (y.bind g) := by
  cases related with
  | none => exact .none
  | some here => exact each here

theorem bind_eq_of_related (related : Option.Rel r x y) {f : α → Option γ} {g : β → Option γ}
    (alike : ∀ {a b}, r a b → f a = g b) : x.bind f = y.bind g := by
  cases related with
  | none => rfl
  | some each => exact alike each

end Options

/-- Values that may be missing, and have the same data. -/
abbrev Value.SameOption : Option Value → Option Value → Prop := Option.Rel Value.SameData

namespace Fields.SameData

variable {fs gs : Fields} (same : Fields.SameData fs gs)

theorem sameUnder (same : Fields.SameData fs gs) (key : String) :
    Option.Rel (Value.SameUnder key) (fs.get? key) (gs.get? key) := by
  induction fs generalizing gs with
  | nil =>
    cases same
    exact .none
  | cons field fs ih =>
    cases same with
    | cons first rest =>
      unfold Fields.get?
      split
      · next found => exact .some (found ▸ first)
      · exact ih rest

theorem values (same : Fields.SameData fs gs) : Value.SameItems fs.values gs.values := by
  induction fs generalizing gs with
  | nil =>
    cases same
    exact .nil
  | cons field fs ih =>
    cases same with
    | cons first rest => exact .cons first.same (ih rest)

include same

theorem get? (key : String) : Value.SameOption (fs.get? key) (gs.get? key) :=
  related_imp (same.sameUnder key) Value.SameUnder.same

theorem string? (key : String) : fs.string? key = gs.string? key :=
  bind_eq_of_related (same.get? key) Value.SameData.string?

theorem bool? (key : String) : fs.bool? key = gs.bool? key :=
  bind_eq_of_related (same.get? key) Value.SameData.bool?

theorem held? (key : String) : Value.SameOption (fs.held? key) (gs.held? key) :=
  related_filter (same.get? key) fun alike => congrArg (!·) alike.isNothing

theorem firstHeld? (keys : List String) :
    Value.SameOption (fs.firstHeld? keys) (gs.firstHeld? keys) := by
  induction keys with
  | nil => exact .none
  | cons key rest ih =>
    unfold Fields.firstHeld? at ih ⊢
    rw [List.findSome?_cons, List.findSome?_cons]
    exact related_cases (same.held? key) ih fun _ _ alike => .some alike

end Fields.SameData

theorem Value.SameData.get? {v w : Value} (same : v.SameData w) (key : String) :
    Value.SameOption (v.get? key) (w.get? key) := by
  cases same with
  | refl =>
    cases v.get? key with
    | none => exact .none
    | some inner => exact .some (.refl inner)
  | object fields => exact fields.get? key
  | array | function => exact .none

/-! ## Checks -/

/-- Checks that differ at most in the functions among their bounds. -/
structure Check.SameData (c d : Check) : Prop where
  kind : c.kind = d.kind
  value : Value.SameOption c.value d.value
  minimum : Value.SameOption c.minimum d.minimum
  maximum : Value.SameOption c.maximum d.maximum
  inclusive : c.inclusive = d.inclusive
  pattern : Value.SameOption c.pattern d.pattern

namespace Check

theorem SameData.resolved {c d : Check} (same : c.SameData d) :
    Value.SameOption c.resolved d.resolved :=
  related_orElse same.value (related_orElse same.minimum same.maximum)

variable {fs gs : Fields} (same : Fields.SameData fs gs)
include same

theorem ofFlat_sameData (kind : String) : (ofFlat kind fs).SameData (ofFlat kind gs) where
  kind := rfl
  value := same.held? "value"
  minimum := same.held? "value"
  maximum := same.held? "value"
  inclusive := same.bool? "inclusive"
  pattern := same.held? "regex"

theorem ofStringFormat_sameData : (ofStringFormat fs).SameData (ofStringFormat gs) where
  kind := by simp only [ofStringFormat, same.string?]
  value := same.firstHeld? _
  minimum := .none
  maximum := .none
  inclusive := rfl
  pattern := same.held? "pattern"

theorem ofNumberFormat_eq : ofNumberFormat fs = ofNumberFormat gs := by
  simp only [ofNumberFormat, same.string?]

theorem namedInclusive_eq (name : String) : namedInclusive name fs = namedInclusive name gs := by
  simp only [namedInclusive, same.bool?]

end Check

theorem Check.SameData.refl (check : Check) : check.SameData check := by
  have self (value : Option Value) : Value.SameOption value value := by
    cases value with
    | none => exact .none
    | some value => exact .some (.refl value)
  exact ⟨rfl, self _, self _, self _, rfl, self _⟩

namespace Check

theorem ofNamed_sameData (name : String) {fs gs : Fields} (same : Fields.SameData fs gs) :
    (ofNamed name fs).SameData (ofNamed name gs) := by
  unfold ofNamed
  split
  · exact ofStringFormat_sameData same
  · exact ofNumberFormat_eq same ▸ .refl _
  · exact {
      kind := rfl
      value := same.firstHeld? _
      minimum := same.held? _
      maximum := same.held? _
      inclusive := namedInclusive_eq same name
      pattern := same.held? _ }

theorem nested?_sameData {fs gs : Fields} (same : Fields.SameData fs gs) :
    Option.Rel (fun p q => p.1 = q.1 ∧ Fields.SameData p.2 q.2) (nested? fs) (nested? gs) := by
  refine related_bind (same.get? "_zod") fun inner => ?_
  refine related_bind (related_bind (inner.get? "def") Value.SameData.fields?) fun definition => ?_
  rw [definition.string?]
  exact related_bind (r := Eq) (by cases Fields.string? _ "check" <;> constructor; rfl)
    fun name => .some ⟨name, definition⟩

theorem ofEntry?_sameData {v w : Value} (same : v.SameData w) :
    Option.Rel Check.SameData (Check.ofEntry? v) (Check.ofEntry? w) := by
  refine related_bind same.fields? fun fields => ?_
  dsimp only
  rw [fields.string?]
  split
  · exact .some (ofFlat_sameData fields _)
  · exact related_bind (nested?_sameData fields) fun nested =>
      nested.1 ▸ .some (ofNamed_sameData _ nested.2)

end Check

theorem Value.SameItems.forall₂ {xs ys : List Value} (same : Value.SameItems xs ys) :
    List.Forall₂ Value.SameData xs ys := by
  induction xs generalizing ys with
  | nil =>
    cases same
    exact .nil
  | cons x xs ih =>
    cases same with
    | cons first rest => exact .cons first (ih rest)

theorem Fields.SameData.checks {fs gs : Fields} (same : Fields.SameData fs gs) :
    List.Forall₂ Check.SameData fs.checks gs.checks := by
  unfold Fields.checks
  refine related_cases (related_bind (same.get? "checks") Value.SameData.items?) .nil ?_
  intro xs ys items
  exact List.rel_filterMap (fun _ _ entry => Check.ofEntry?_sameData entry) items.forall₂

/-! ## Calls -/

section Calls

open Rule

variable {c d : Check}

theorem filterMap_eq_of_forall₂ {α β γ : Type} {r : α → β → Prop} {xs : List α} {ys : List β}
    (related : List.Forall₂ r xs ys) {f : α → Option γ} {g : β → Option γ}
    (each : ∀ {a b}, r a b → f a = g b) : xs.filterMap f = ys.filterMap g := by
  induction related with
  | nil => rfl
  | cons first _ ih => rw [List.filterMap_cons, List.filterMap_cons, each first, ih]

theorem numberBound_eq (o : Optimizations) {v w : Option Value} (same : Value.SameOption v w) :
    numberBound o v = numberBound o w :=
  related_cases same rfl fun _ _ alike => alike.boundText o

theorem countText_eq {v w : Option Value} (same : Value.SameOption v w) :
    countText v = countText w :=
  numberBound_eq .none same

theorem bigintBound_eq (o : Optimizations) {v w : Option Value} (same : Value.SameOption v w) :
    bigintBound o v = bigintBound o w :=
  related_cases same rfl fun _ _ alike => alike.bigintBound o

namespace Check.SameData

variable (same : c.SameData d)
include same

theorem sizeCall? (exact : String) : sizeCall? exact c = sizeCall? exact d := by
  simp only [Rule.sizeCall?, same.kind, countText_eq same.resolved]

theorem stringCall? : stringCall? c = stringCall? d := by
  unfold Rule.stringCall?
  rw [same.kind, countText_eq same.resolved,
    bind_eq_of_related same.resolved Value.SameData.jsonText?]
  split
  case h_4 =>
    refine related_cases (related_orElse same.pattern same.value) rfl fun _ _ alike => ?_
    cases alike <;> rfl
  all_goals rfl

theorem boundIs (n : Int) : boundIs n c = boundIs n d := by
  simp only [Rule.boundIs, bind_eq_of_related same.resolved Value.SameData.number?]

theorem isLeastSafe : isLeastSafe c = isLeastSafe d := by
  simp only [Rule.isLeastSafe, same.kind, same.inclusive, same.boundIs]

theorem isGreatestSafe : isGreatestSafe c = isGreatestSafe d := by
  simp only [Rule.isGreatestSafe, same.kind, same.inclusive, same.boundIs]

section Range

variable {bound : Option Value → String} (blind : bound c.resolved = bound d.resolved)
include blind

theorem lowerCall (semantic zero : Bool) :
    (lowerCall semantic zero c).text bound = (lowerCall semantic zero d).text bound := by
  have kept : (RangeCall.min c.resolved).text bound = (RangeCall.min d.resolved).text bound :=
    congrArg (callText "min") blind
  unfold Rule.lowerCall
  rw [same.inclusive]
  split
  · split
    · rfl
    · exact kept
  · exact kept

theorem upperCall (semantic zero : Bool) :
    (upperCall semantic zero c).text bound = (upperCall semantic zero d).text bound := by
  have kept : (RangeCall.max c.resolved).text bound = (RangeCall.max d.resolved).text bound :=
    congrArg (callText "max") blind
  unfold Rule.upperCall
  rw [same.inclusive]
  split
  · split
    · rfl
    · exact kept
  · exact kept

theorem numberCall? (semantic after : Bool) :
    (numberCall? semantic after c).map (·.text bound) =
      (numberCall? semantic after d).map (·.text bound) := by
  unfold Rule.numberCall?
  rw [same.kind, same.boundIs, same.isGreatestSafe]
  split
  · exact congrArg some (same.lowerCall blind ..)
  · split
    · rfl
    · exact congrArg some (same.upperCall blind ..)
  · exact congrArg (fun text => some (callText "multipleOf" text)) blind
  · split <;> rfl

theorem bigintCall? (semantic : Bool) :
    (bigintCall? semantic c).map (·.text bound) = (bigintCall? semantic d).map (·.text bound) := by
  unfold Rule.bigintCall?
  rw [same.kind, bind_eq_of_related same.resolved Value.SameData.bigint?]
  split
  · exact congrArg some (same.lowerCall blind ..)
  · exact congrArg some (same.upperCall blind ..)
  · exact congrArg (fun text => some (callText "multipleOf" text)) blind
  · split <;> rfl

end Range

end Check.SameData

variable {checks checks' : List Check} (same : List.Forall₂ Check.SameData checks checks')
include same

theorem numberCalls_eq {bound : Option Value → String}
    (blind : ∀ {v w}, Value.SameOption v w → bound v = bound w) (semantic after : Bool) :
    (numberCalls semantic after checks).map (·.text bound) =
      (numberCalls semantic after checks').map (·.text bound) := by
  induction same generalizing after with
  | nil => rfl
  | cons first _ ih =>
    have here := first.numberCall? (blind first.resolved) semantic after
    simp only [numberCalls, List.map_append, ← Option.toList_map, here, first.isLeastSafe, ih]

theorem bigintCalls_eq {bound : Option Value → String}
    (blind : ∀ {v w}, Value.SameOption v w → bound v = bound w) (semantic : Bool) :
    (checks.filterMap (bigintCall? semantic)).map (·.text bound) =
      (checks'.filterMap (bigintCall? semantic)).map (·.text bound) := by
  rw [List.map_filterMap, List.map_filterMap]
  exact filterMap_eq_of_forall₂ same fun first => first.bigintCall? (blind first.resolved) semantic

theorem dateCalls_eq : dateCalls checks = dateCalls checks' := by
  induction same with
  | nil => rfl
  | cons first _ ih =>
    have text := related_cases (motive := fun v w => dateText v = dateText w) first.resolved rfl
      fun _ _ alike => alike.dateText
    simp only [dateCalls, first.kind, text, ih]

end Calls
end SchemaSource
