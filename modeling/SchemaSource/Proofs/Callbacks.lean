import SchemaSource.Proofs.SameParts
import SchemaSource.Proofs.Schema
/-!
What functions do cannot be seen in the text of a schema. Every rule leaves the same text around
children with the same data, and so the whole answer is the same. Only shapes, default values and
values for recovery are ever called, and of the last two no more than a word is written.
-/
namespace SchemaSource

/-! ## Rules -/

/-- A rule that leaves the same text around children with the same data. -/
def Rule.IsBlind (rule : Rule) : Prop :=
  ∀ (reading : Reading), reading.dialect.IsBlind →
    ∀ {v w : Value} {definition : Members v} {definition' : Members w},
      definition.SameData definition' →
        SameOutcome Part.SameData (rule reading definition) (rule reading definition')

namespace Rule

theorem constructor_eq (name : String) {fs gs : Fields} (same : Fields.SameData fs gs) :
    constructor name fs = constructor name gs := by
  have coerce : (fs.get? "coerce").any Value.countsAsTrue =
      (gs.get? "coerce").any Value.countsAsTrue :=
    related_cases (same.get? "coerce") rfl fun _ _ coerce => coerce.countsAsTrue
  simp only [constructor, coerce]

theorem bare_blind (name : String) : IsBlind (bare name) :=
  fun _ _ _ _ _ _ _ => .text rfl

theorem boolean_blind : IsBlind boolean :=
  fun _ _ _ _ _ _ same => .text (constructor_eq "boolean" same)

theorem string_blind : IsBlind string := by
  intro reading _ v w definition definition' same
  have calls := filterMap_eq_of_forall₂ (Fields.SameData.checks same) Check.SameData.stringCall?
  refine .text ?_
  rw [constructor_eq "string" same, calls]

theorem number_blind : IsBlind number := by
  intro reading _ v w definition definition' same
  have calls := numberCalls_eq (Fields.SameData.checks same)
    (numberBound_eq reading.optimizations) reading.optimizations.semanticMethods false
  refine .text ?_
  rw [constructor_eq "number" same, calls]

theorem bigint_blind : IsBlind bigint := by
  intro reading _ v w definition definition' same
  have calls := bigintCalls_eq (Fields.SameData.checks same)
    (bigintBound_eq reading.optimizations) reading.optimizations.semanticMethods
  refine .text ?_
  rw [constructor_eq "bigint" same, calls]

theorem date_blind : IsBlind date := by
  intro reading _ v w definition definition' same
  unfold date
  rw [constructor_eq "date" same, dateCalls_eq (Fields.SameData.checks same)]
  cases dateCalls definition'.fields.checks with
  | error fault => exact .error fault
  | ok calls => exact .text rfl

/-! ### Choices -/

theorem literalValue_sameData {fs gs : Fields} (same : Fields.SameData fs gs) :
    (literalValue fs).SameData (literalValue gs) := by
  unfold literalValue
  refine related_cases (related_filter (same.get? "value") fun alike =>
    congrArg (!·) alike.isUndefined) ?_ fun _ _ alike => alike
  refine related_cases (related_bind (same.get? "values") Value.SameData.items?) (.refl _) ?_
  intro xs ys items
  cases items with
  | nil => exact .refl _
  | cons first _ => exact first

theorem literal_blind : IsBlind literal :=
  fun _ _ _ _ _ _ same => .text (by rw [(literalValue_sameData same).literalText])

theorem enumMembers_sameData {fs gs : Fields} (same : Fields.SameData fs gs) :
    Value.SameItems (enumMembers fs) (enumMembers gs) := by
  unfold enumMembers
  refine related_cases (related_bind (same.get? "values") Value.SameData.items?) ?_
    fun _ _ items => items
  exact related_cases (related_bind (same.get? "entries") Value.SameData.fields?) .nil
    fun _ _ entries => entries.values

theorem enumeration_blind : IsBlind enumeration := by
  intro reading _ v w definition definition' same
  have members (xs ys : List Value) (items : List.Forall₂ Value.SameData xs ys) :
      xs.map (fun value => value.jsonText?.getD "null") =
        ys.map fun value => value.jsonText?.getD "null" := by
    induction items with
    | nil => rfl
    | cons first _ ih => rw [List.map_cons, List.map_cons, first.jsonText?, ih]
  exact .text (by rw [members _ _ (enumMembers_sameData same).forall₂])

theorem nativeEnum_blind : IsBlind nativeEnum := by
  intro reading _ v w definition definition' same
  have table : enumTable definition.fields = enumTable definition'.fields :=
    congrArg (Option.getD · "\x7b\x7d") (bind_eq_of_related
      (related_filter (Fields.SameData.get? same "values") Value.SameData.countsAsTrue)
      Value.SameData.jsonText?)
  exact .text (by rw [table])

theorem discriminatedOf_blind {α β : Type} {r : α → β → Prop} {name name' : Option Value}
    (same : Value.SameOption name name') {options : List α} {options' : List β}
    (related : List.Forall₂ r options options') :
    Template.Related r (discriminatedOf name options) (discriminatedOf name' options') := by
  unfold discriminatedOf
  rw [bind_eq_of_related same Value.SameData.jsonText?]
  exact Template.related_list_between _ _ related

theorem union_blind : IsBlind union := by
  intro reading _ v w definition definition' same
  have options := same.items "options"
  unfold union
  refine related_cases (related_filter (Fields.SameData.get? same "discriminator")
    Value.SameData.countsAsTrue) ?_ ?_
  · exact .ok (Template.related_list_between _ _ options)
  · intro name name' alike
    exact .ok (discriminatedOf_blind (.some alike) options)

theorem discriminatedUnion_blind : IsBlind discriminatedUnion :=
  fun _ _ _ _ _ _ same =>
    .ok (discriminatedOf_blind (Fields.SameData.get? same "discriminator") (same.items "options"))

theorem intersection_blind : IsBlind intersection := by
  intro reading _ v w definition definition' same
  have right := same.truthy? "right"
  unfold intersection
  refine related_cases (same.truthy? "left") (.text rfl) fun left left' first => ?_
  refine related_cases right (.text rfl) fun right right' second => ?_
  exact .ok (.cons (.text _) (.cons (.hole first) (.cons (.text _) (.cons (.hole second)
    (.cons (.text _) .nil)))))

/-! ### Containers -/

theorem boundCalls_eq {fs gs : Fields} (same : Fields.SameData fs gs)
    (counts : List (String × String)) (exact : String) :
    boundCalls fs counts exact = boundCalls gs counts exact := by
  have count (key : String) : Value.SameOption (count? fs key) (count? gs key) := by
    unfold count?
    refine related_cases (same.held? key) .none fun value value' alike => ?_
    dsimp only
    rw [alike.isObject]
    split
    · exact alike.get? "value"
    · exact .some alike
  have direct (key method : String) : directCall? fs key method = directCall? gs key method :=
    related_cases (motive := fun value value' =>
        (value.map fun value => callText method (countText (some value))) =
          value'.map fun value => callText method (countText (some value)))
      (count key) rfl fun _ _ alike => by
        rw [Option.map_some, Option.map_some, countText_eq (.some alike)]
  have sizes : fs.checks.filterMap (sizeCall? exact) = gs.checks.filterMap (sizeCall? exact) :=
    filterMap_eq_of_forall₂ same.checks fun check => check.sizeCall? exact
  simp only [boundCalls, direct, sizes]

theorem array_blind : IsBlind array := by
  intro reading _ v w definition definition' same
  have calls := boundCalls_eq same arrayCounts "length"
  unfold array
  refine related_cases (related_orElse (same.truthy? "element") (same.nested? "type"))
    (.text rfl) ?_
  intro element element' child
  exact .ok (.cons (.text _) (.cons (.hole child) (calls ▸ .cons (.text _) .nil)))

theorem set_blind : IsBlind set := by
  intro reading _ v w definition definition' same
  have calls := boundCalls_eq same setCounts "size"
  unfold set
  refine related_cases (related_orElse (same.truthy? "valueType") (same.truthy? "element"))
    (.text rfl) ?_
  intro element element' child
  exact .ok (.cons (.text _) (.cons (.hole child) (calls ▸ .cons (.text _) .nil)))

theorem tuple_blind : IsBlind tuple := by
  intro reading _ v w definition definition' same
  have items := Template.related_list_between "z.tuple([" "])" (same.items "items")
  unfold tuple
  refine related_cases (same.truthy? "rest") (.ok items) fun rest rest' child => ?_
  exact .ok (items.append (.cons (.text _) (.cons (.hole child) (.cons (.text _) .nil))))

theorem childOr_related {α β : Type} {r : α → β → Prop} {child : Option α} {child' : Option β}
    (related : Option.Rel r child child') (missing : String) :
    Piece.Related r (childOr child missing) (childOr child' missing) := by
  cases related with
  | none => exact .text missing
  | some here => exact .hole here

theorem keyed_blind (name : String) : IsBlind (keyed name) := by
  intro reading _ v w definition definition' same
  exact .ok (.cons (.text _) (.cons (childOr_related (same.truthy? "keyType") _)
    (.cons (.text _) (.cons (childOr_related (same.truthy? "valueType") _)
      (.cons (.text _) .nil)))))

/-! ### Modifiers -/

theorem modifier_blind (method : String) : IsBlind (modifier method) := by
  intro reading _ v w definition definition' same
  unfold modifier
  refine related_cases (same.truthy? "innerType") (.text rfl) fun inner inner' child => ?_
  exact .ok (.cons (.hole child) (.cons (.text _) .nil))

theorem readonly_blind : IsBlind readonly := by
  intro reading _ v w definition definition' same
  unfold readonly
  refine related_cases (same.truthy? "innerType") (.text rfl) fun inner inner' child => ?_
  exact .ok (.cons (.hole child) (.cons (.text _) .nil))

theorem branded_blind : IsBlind branded := by
  intro reading _ v w definition definition' same
  unfold branded
  refine related_cases (same.nested? "type") (.text rfl) fun inner inner' child => ?_
  exact .ok (.cons (.hole child) (.cons (.text _) .nil))

theorem promise_blind : IsBlind promise := by
  intro reading _ v w definition definition' same
  unfold promise
  refine related_cases (related_orElse (same.truthy? "innerType") (same.nested? "type"))
    (.text rfl) fun inner inner' child => ?_
  exact .ok (.cons (.text _) (.cons (.hole child) (.cons (.text _) .nil)))

/-- The one word that a call returns is all that is written of it. -/
theorem ofOutcome_eq {outcome outcome' : Outcome} (same : outcome.word? = outcome'.word?) :
    Fallback.ofOutcome outcome = Fallback.ofOutcome outcome' := by
  have text (outcome : Outcome) : Fallback.ofOutcome outcome =
      (outcome.word?.bind Value.primitiveText?).getD "/* function */" := by
    cases outcome with
    | throws message => rfl
    | returns value => cases value <;> rfl
  rw [text, text, same]

theorem argument_of_data (kind : Fallback) {value : Value} (plain : value.isFunction = false) :
    kind.argument (some value) =
      if value.isUndefined then "undefined"
      else value.primitiveText?.getD "/* non-serializable value */" := by
  cases value <;> first | rfl | cases plain

theorem argument_eq (kind : Fallback) {value value' : Option Value}
    (same : Option.Rel (Value.SameUnder kind.key) value value') :
    kind.argument value = kind.argument value' := by
  cases same with
  | none => rfl
  | some under =>
    rcases under.data_or_function with ⟨plain, data⟩ | ⟨_, _, _, _, rfl, rfl, -, default, recovery⟩
    · rw [argument_of_data kind plain, argument_of_data kind (data.isFunction ▸ plain),
        data.isUndefined, data.primitiveText?]
    · cases kind with
      | default => exact ofOutcome_eq (default rfl)
      | recovery => exact ofOutcome_eq (recovery rfl)

theorem fallback_blind (kind : Fallback) : IsBlind (fallback kind) := by
  intro reading _ v w definition definition' same
  have argument := argument_eq kind (Fields.SameData.sameUnder same kind.key)
  unfold fallback
  refine related_cases (same.truthy? "innerType") (.text rfl) fun inner inner' child => ?_
  exact .ok (.cons (.hole child) (argument ▸ .cons (.text _) .nil))

theorem lazy_blind : IsBlind lazy := fun _ _ _ _ _ _ _ => .text rfl

/-! ### Effects -/

theorem effectOf_related {α β : Type} {r : α → β → Prop} {inner : α} {inner' : β}
    (related : r inner inner') (effect : Option String) :
    Template.Related r (effectOf inner effect) (effectOf inner' effect) := by
  unfold effectOf
  split
  · exact .cons (.hole related) (.cons (.text _) .nil)
  · exact .cons (.hole related) (.cons (.text _) .nil)
  · exact .cons (.text _) (.cons (.hole related) (.cons (.text _) .nil))
  · exact .cons (.hole related) .nil

theorem effects_blind : IsBlind effects := by
  intro reading _ v w definition definition' same
  have effect : ((definition.fields.get? "effect").bind (·.get? "type")).bind Value.string? =
      ((definition'.fields.get? "effect").bind (·.get? "type")).bind Value.string? :=
    bind_eq_of_related
      (related_bind (Fields.SameData.get? same "effect") fun effect => effect.get? "type")
      Value.SameData.string?
  unfold effects
  refine related_cases (same.truthy? "schema") (.text rfl) fun inner inner' child => ?_
  dsimp only
  rw [effect]
  exact .ok (effectOf_related child _)

theorem transform_blind : IsBlind transform := fun _ _ _ _ _ _ _ => .text rfl

theorem pipeTo_related {α β : Type} {r : α → β → Prop} {input output : α} {input' output' : β}
    (first : r input input') (second : r output output') :
    Template.Related r (pipeTo input output) (pipeTo input' output') :=
  .cons (.hole first) (.cons (.text _) (.cons (.hole second) (.cons (.text _) .nil)))

/-- Schemas under a name are found alike. -/
theorem schema_sameData {dialect : Dialect} (blind : dialect.IsBlind) {v w : Value}
    {definition : Members v} {definition' : Members w} (same : definition.SameData definition')
    (key : String) :
    Option.Rel Part.SameData ((definition.get? key).filter (dialect.recognizes ·.1))
      ((definition'.get? key).filter (dialect.recognizes ·.1)) :=
  related_filter (same.get? key) blind.recognizes

theorem pipe_blind : IsBlind pipe := by
  intro reading blind v w definition definition' same
  have output := schema_sameData blind same "out"
  unfold pipe
  refine related_cases (related_orElse (same.truthy? "in") (same.truthy? "innerType")) (.text rfl)
    fun input input' first => ?_
  refine related_cases output (.ok (.cons (.hole first) .nil)) fun output output' second => ?_
  dsimp only
  rw [blind.tag? second]
  split
  · exact .ok (.cons (.hole first) (.cons (.text _) .nil))
  · exact .ok (pipeTo_related first second)

theorem pipeline_blind : IsBlind pipeline := by
  intro reading blind v w definition definition' same
  have output := same.truthy? "out"
  unfold pipeline
  refine related_cases (same.truthy? "in") (.text rfl) fun input input' first => ?_
  refine related_cases output (.ok (.cons (.hole first) .nil)) fun output output' second => ?_
  exact .ok (pipeTo_related first second)

theorem callWith_related {α β : Type} {r : α → β → Prop} (method : String) {arguments : List α}
    {arguments' : List β} (related : List.Forall₂ r arguments arguments') :
    Template.Related r (callWith method arguments) (callWith method arguments') := by
  cases related with
  | nil => exact .nil
  | cons first others => exact Template.related_list_between _ _ (.cons first others)

theorem tupleItems_sameData {dialect : Dialect} (blind : dialect.IsBlind) {v w : Value}
    {tuple : Part v} {tuple' : Part w} (same : tuple.SameData tuple') :
    List.Forall₂ Part.SameData (tupleItems dialect tuple) (tupleItems dialect tuple') := by
  unfold tupleItems
  refine related_cases (blind.definition? same) .nil fun inner inner' alike => ?_
  have items : Members.SameData inner.widen inner'.widen := alike
  exact items.items "items"

theorem function_blind : IsBlind function := by
  intro reading blind v w definition definition' same
  have arguments : List.Forall₂ Part.SameData
      ((((definition.get? "args").filter (reading.dialect.recognizes ·.1)).map
        (tupleItems reading.dialect)).getD [])
      ((((definition'.get? "args").filter (reading.dialect.recognizes ·.1)).map
        (tupleItems reading.dialect)).getD []) :=
    related_cases (schema_sameData blind same "args") .nil fun _ _ tuple =>
      tupleItems_sameData blind tuple
  have result : List.Forall₂ Part.SameData
      ((definition.get? "returns").filter fun part =>
        reading.dialect.recognizes part.1 && reading.dialect.tag? part.1 != some "unknown").toList
      ((definition'.get? "returns").filter fun part =>
        reading.dialect.recognizes part.1 &&
          reading.dialect.tag? part.1 != some "unknown").toList := by
    refine related_cases (related_filter (same.get? "returns") fun alike => ?_) .nil
      fun _ _ alike => .cons alike .nil
    rw [blind.recognizes alike, blind.tag? alike]
  exact .ok (.cons (.text _) (List.rel_append (callWith_related "args" arguments)
    (callWith_related "returns" result)))

/-! ### Objects -/

theorem members?_sameData {v w : Value} {part : Part v} {part' : Part w}
    (same : part.SameData part') : Option.Rel Members.SameData part.members? part'.members? := by
  have fields (whole : Value) (part : Part whole) :
      part.members?.map (·.fields) = part.1.fields? := by
    obtain ⟨value, lt⟩ := part
    cases value <;> rfl
  have related := Value.SameData.fields? same
  rw [← fields, ← fields] at related
  exact related_of_map (r := Fields.SameData) related

theorem call_of_plain {v : Value} {part : Part v} (plain : part.1.isFunction = false) :
    part.call = .ok part := by
  obtain ⟨value, lt⟩ := part
  cases value with
  | function => cases plain
  | _ => rfl

/-- What is in the place of a shape throws the same message, or answers with the same data. -/
theorem call_sameUnder {v w : Value} {part : Part v} {part' : Part w}
    (same : Value.SameUnder "shape" part.1 part'.1) :
    (∃ message, part.call = .error message ∧ part'.call = .error message) ∨
      ∃ answer answer', part.call = .ok answer ∧ part'.call = .ok answer' ∧
        answer.SameData answer' := by
  rcases same.data_or_function with ⟨plain, data⟩ | ⟨called, _, called', _, first, second, shape, -⟩
  · exact .inr ⟨part, part', call_of_plain plain, call_of_plain (data.isFunction ▸ plain), data⟩
  · obtain ⟨value, lt⟩ := part
    obtain ⟨value', lt'⟩ := part'
    subst first second
    cases shape rfl with
    | throws message => exact .inl ⟨message, rfl, rfl⟩
    | returns answer => exact .inr ⟨_, _, rfl, rfl, answer⟩

/-- Shapes throw the same message, or have the same data. -/
theorem shape?_cases {v w : Value} {definition : Members v} {definition' : Members w}
    (same : definition.SameData definition') :
    (∃ fault, shape? definition = .error fault ∧ shape? definition' = .error fault) ∨
      ∃ shape shape', shape? definition = .ok shape ∧ shape? definition' = .ok shape' ∧
        Option.Rel Members.SameData shape shape' := by
  have under := Fields.SameData.sameUnder same "shape"
  rw [← definition.get?_map_val, ← definition'.get?_map_val] at under
  unfold shape?
  refine related_cases (related_of_map under) (.inr ⟨none, none, rfl, rfl, .none⟩) ?_
  intro part part' here
  rcases call_sameUnder here with ⟨message, first, second⟩ | ⟨answer, answer', first, second, alike⟩
  · exact .inl ⟨_, by simp only [first]; rfl, by simp only [second]; rfl⟩
  · exact .inr ⟨_, _, by simp only [first]; rfl, by simp only [second]; rfl,
      members?_sameData alike⟩

theorem ofValue_eq {v w : Value} (same : v.SameData w) :
    KeyPolicy.ofValue v = KeyPolicy.ofValue w := by
  simp only [KeyPolicy.ofValue, same.string?]

theorem keyPolicy_eq {policy policy' : Option Value} (same : Value.SameOption policy policy')
    (tag : Option String) : keyPolicy policy tag = keyPolicy policy' tag :=
  related_cases same rfl fun _ _ alike => by simp only [keyPolicy, ofValue_eq alike]

theorem object_blind : IsBlind object := by
  intro reading blind v w definition definition' same
  have catchall := schema_sameData blind same "catchall"
  have tag := bind_eq_of_related catchall blind.tag?
  have policy := keyPolicy_eq (related_filter (Fields.SameData.get? same "unknownKeys")
    fun alike => congrArg (!·) alike.isUndefined)
  unfold object
  rcases shape?_cases same with ⟨fault, first, second⟩ | ⟨shape, shape', first, second, alike⟩
  · rw [first, second]
    exact .error fault
  · rw [first, second]
    refine related_cases alike (.text rfl) fun shape shape' alike => ?_
    dsimp only [bind, Except.bind]
    rw [tag, policy]
    have properties (text : String) : Template.Related Part.SameData
        [.text "z.object(", .block shape.entries, .text text]
        [.text "z.object(", .block shape'.entries, .text text] :=
      .cons (.text _) (.cons (.block alike.entries) (.cons (.text _) .nil))
    refine related_cases (related_filter catchall fun _ => rfl) (.ok (properties _))
      fun catchall catchall' child => ?_
    exact .ok ((properties _).append (.cons (.text _) (.cons (.hole child) (.cons (.text _) .nil))))

end Rule

/-- Every rule is blind to what functions do. -/
theorem Kind.rule_blind (kind : Kind) : kind.rule.IsBlind := by
  cases kind with
  | string => exact Rule.string_blind
  | number => exact Rule.number_blind
  | boolean => exact Rule.boolean_blind
  | bigint => exact Rule.bigint_blind
  | date => exact Rule.date_blind
  | undefined | null | void | any | unknown | never | nan | symbol => exact Rule.bare_blind _
  | literal => exact Rule.literal_blind
  | enumeration => exact Rule.enumeration_blind
  | nativeEnum => exact Rule.nativeEnum_blind
  | optional | nullable | nullish => exact Rule.modifier_blind _
  | default | recovery => exact Rule.fallback_blind _
  | array => exact Rule.array_blind
  | object => exact Rule.object_blind
  | record | map => exact Rule.keyed_blind _
  | set => exact Rule.set_blind
  | tuple => exact Rule.tuple_blind
  | union => exact Rule.union_blind
  | discriminatedUnion => exact Rule.discriminatedUnion_blind
  | intersection => exact Rule.intersection_blind
  | lazy => exact Rule.lazy_blind
  | promise => exact Rule.promise_blind
  | function => exact Rule.function_blind
  | effects => exact Rule.effects_blind
  | pipe => exact Rule.pipe_blind
  | transform => exact Rule.transform_blind
  | pipeline => exact Rule.pipeline_blind
  | branded => exact Rule.branded_blind
  | readonly => exact Rule.readonly_blind

/-! ## Rendering -/

namespace Renderer

variable {dialect : Dialect} (blind : dialect.IsBlind) (options : Options) (level : Nat)
include blind

/-- Values with the same data have the same document. -/
theorem renderAt_of_sameData {v w : Value} (same : v.SameData w) :
    (ofDialect dialect).renderAt options level v =
      (ofDialect dialect).renderAt options level w := by
  induction v using Part.induction generalizing w level with
  | step v ih =>
    rw [renderAt_ofDialect, renderAt_ofDialect, blind.recognizes same, blind.tag? same]
    by_cases schema : dialect.recognizes w = true
    · rw [if_pos schema, if_pos schema]
      cases dialect.tag? w with
      | none => rfl
      | some tag =>
        dsimp only
        cases Kind.ofTag? tag with
        | none => rfl
        | some kind =>
          refine (kind.rule_blind _ blind (blind.definitionIn same)).fill_eq ?_
          intro child child' alike
          funext deeper
          exact ih child (level + deeper) alike
    · have comment : notASchema v = notASchema w :=
        congrArg (fun kind => "/* not a zod schema: " ++ kind ++ " */") same.kindName
      rw [if_neg schema, if_neg schema, comment]

end Renderer

namespace Value.SameData

/-- **What functions do does not show.** Two values that are equal but for the behaviour of
functions have the same text, or the same fault, as long as shapes answer alike and fallbacks come
to the same word. -/
theorem render_eq (version : Version) (options : Options) {v w : Value} (same : v.SameData w) :
    (Renderer.ofVersion version).render options v =
      (Renderer.ofVersion version).render options w := by
  have documents := Renderer.renderAt_of_sameData (Dialect.isBlind version) options
    options.indentLevel same
  exact congrArg (fun answer => do return (← answer).print options options.indentLevel) documents

end Value.SameData

theorem kindNode_sameData {fs gs : Fields} (tag : String) (same : Fields.SameData fs gs) :
    (kindNode tag fs).SameData (kindNode tag gs) :=
  .object (.cons (.data rfl (.object (.cons (.data rfl (.object
    (.cons (.data rfl (.refl _)) same))) .nil))) .nil)

/-- A schema in which three functions end the calls that nobody makes as told: one in a check, one
that finds a default value, and a shape. -/
def withCallbacks (outcome : Outcome) : Value :=
  kindNode "object"
    [("shape", .function (.returns (.object
      [("port", kindNode "default"
        [("innerType", kindNode "number"
          [("checks", .array [namedEntry "custom" [("fn", .constantFunction outcome)]])]),
         ("defaultValue", .function (.returns (.bool true)) outcome)])])) outcome)]

theorem withCallbacks_sameData (outcome outcome' : Outcome) :
    (withCallbacks outcome).SameData (withCallbacks outcome') := by
  have check : (namedEntry "custom" [("fn", .constantFunction outcome)]).SameData
      (namedEntry "custom" [("fn", .constantFunction outcome')]) :=
    .object (.cons (.data rfl (.object (.cons (.data rfl (.object (.cons (.data rfl (.refl _))
      (.cons (.unread (by decide)) .nil)))) .nil))) .nil)
  have number : (kindNode "number"
        [("checks", .array [namedEntry "custom" [("fn", .constantFunction outcome)]])]).SameData
      (kindNode "number"
        [("checks", .array [namedEntry "custom" [("fn", .constantFunction outcome')]])]) :=
    kindNode_sameData _ (.cons (.data rfl (.array (.cons check .nil))) .nil)
  exact kindNode_sameData _ (.cons (.shape (.returns (.object (.cons (.data rfl
    (kindNode_sameData _ (.cons (.data rfl number) (.cons (.default rfl) .nil)))) .nil)))) .nil)

theorem Value.SameData.render_eq_withCallbacks :
    let v := withCallbacks (.throws "no answer")
    let w := withCallbacks (.returns .null)
    v.SameData w ∧
      (Renderer.ofVersion .v4).render .compact v = (Renderer.ofVersion .v4).render .compact w ∧
      ((Renderer.ofVersion .v4).render .compact v).toOption =
        some "z.object(\x7b port: z.number().default(true) \x7d)" := by
  have same := withCallbacks_sameData (.throws "no answer") (.returns .null)
  exact ⟨same, same.render_eq .v4 .compact, by decide +kernel⟩

end SchemaSource
