import SchemaSource.Proofs.Template
/-!
What a rule does with a definition, told without its text: the fault of the definition itself, if it
has one, and otherwise the children that are rendered, in their order. Only two kinds have faults of
their own, an object whose shape throws and a date with a bound that is no date.
-/
namespace SchemaSource

/-! ## Faults of a definition -/

/-- The message that the function in the place of a shape throws. -/
def Fields.shapeMessage? (definition : Fields) : Option String :=
  match definition.get? "shape" with
  | some (.function (.throws message) _) => some message
  | _ => none

/-- What a bound is given by names a date: a date, a number of milliseconds within the calendar, or
the text of a date. -/
def namesDate : Option Value → Bool
  | some (.date _) => true
  | some (.number millis) => (Instant.ofMillis? millis).isSome
  | some (.string text) => (Instant.ofText text).isOk
  | _ => false

/-- How a bound that names no date is reported. -/
def dateComplaint : Option Value → String
  | some (.number millis) => millis.text
  | some (.string text) => text
  | some value => value.kindName
  | none => "undefined"

/-- A bound of a date that names no date. -/
def Check.isBadDate (check : Check) : Bool :=
  (check.kind == "min" || check.kind == "max") && !namesDate check.resolved

theorem dateText_of_namesDate {value : Option Value} (names : namesDate value = true) :
    ∃ text, Rule.dateText value = .ok text := by
  unfold namesDate at names
  split at names
  · exact ⟨_, rfl⟩
  · next millis =>
    obtain ⟨date, found⟩ := Option.isSome_iff_exists.mp names
    exact ⟨date.isoText, by rw [Rule.dateText, found]⟩
  · next text =>
    cases found : Instant.ofText text with
    | ok date => exact ⟨date.isoText, by rw [Rule.dateText, found]⟩
    | error reason => simp [found, Except.isOk, Except.toBool] at names
  · cases names

theorem dateText_of_not_namesDate {value : Option Value} (names : namesDate value = false) :
    Rule.dateText value = .error (.invalidDate (dateComplaint value)) := by
  unfold namesDate at names
  split at names
  · cases names
  · next millis =>
    have none : Instant.ofMillis? millis = none := by simpa using names
    rw [Rule.dateText, none]
    rfl
  · next text =>
    cases found : Instant.ofText text with
    | ok date => simp [found, Except.isOk, Except.toBool] at names
    | error reason =>
      rw [Rule.dateText, found]
      rfl
  · next date number text =>
    cases value with
    | none => rfl
    | some value =>
      cases value with
      | date d => exact absurd rfl (date d)
      | number millis => exact absurd rfl (number millis)
      | string s => exact absurd rfl (text s)
      | _ => rfl

/-- The fault of a definition of a kind. Of several bad bounds the first counts. -/
def Kind.fault? (kind : Kind) (definition : Fields) : Option RenderFault :=
  match kind with
  | .object => definition.shapeMessage?.map (.callback "shape")
  | .date => (definition.checks.find? (·.isBadDate)).map fun check =>
      .invalidDate (dateComplaint check.resolved)
  | _ => none

/-! ## Children of a definition -/

namespace Rule

variable {whole : Value}

/-- A child that has to be a schema. -/
def schemaAt? (dialect : Dialect) (definition : Members whole) (key : String) :
    Option (Part whole) :=
  (definition.get? key).filter (dialect.recognizes ·.1)

/-- The schema for other properties of an object, where the object writes it: nothing is written for
one that admits nothing, nor for one that admits anything and is itself the policy. -/
def openCatchall? (dialect : Dialect) (definition : Members whole) : Option (Part whole) :=
  let policy := (definition.fields.get? "unknownKeys").filter (!·.isUndefined)
  (schemaAt? dialect definition "catchall").filter fun catchall =>
    (dialect.tag? catchall.1).any fun tag => tag != "never" && (policy.isSome || tag != "unknown")

/-- What a pipe leads into, unless that is a bare function. -/
def pipeOutput? (dialect : Dialect) (definition : Members whole) : Option (Part whole) :=
  (schemaAt? dialect definition "out").filter (dialect.tag? ·.1 != some "transform")

/-- The result of a function, unless it may be anything. -/
def functionResult? (dialect : Dialect) (definition : Members whole) : Option (Part whole) :=
  (schemaAt? dialect definition "returns").filter (dialect.tag? ·.1 != some "unknown")

/-- The arguments of a function: the items of a tuple. -/
def functionArguments (dialect : Dialect) (definition : Members whole) : List (Part whole) :=
  ((schemaAt? dialect definition "args").map (tupleItems dialect)).getD []

end Rule

open Rule in
/-- The children of a definition that a kind renders, in order. -/
def Kind.children (dialect : Dialect) {whole : Value} (definition : Members whole) :
    Kind → List (Part whole)
  | .optional | .nullable | .nullish | .default | .recovery | .readonly =>
    (definition.truthy? "innerType").toList
  | .branded => (definition.nested? "type").toList
  | .promise => (definition.truthy? "innerType" <|> definition.nested? "type").toList
  | .array => (definition.truthy? "element" <|> definition.nested? "type").toList
  | .set => (definition.truthy? "valueType" <|> definition.truthy? "element").toList
  | .tuple => definition.items "items" ++ (definition.truthy? "rest").toList
  | .record | .map =>
    (definition.truthy? "keyType").toList ++ (definition.truthy? "valueType").toList
  | .union | .discriminatedUnion => definition.items "options"
  | .intersection =>
    match definition.truthy? "left", definition.truthy? "right" with
    | some left, some right => [left, right]
    | _, _ => []
  | .effects => (definition.truthy? "schema").toList
  | .pipe =>
    match definition.truthy? "in" <|> definition.truthy? "innerType" with
    | some input => input :: (pipeOutput? dialect definition).toList
    | none => []
  | .pipeline =>
    match definition.truthy? "in" with
    | some input => input :: (definition.truthy? "out").toList
    | none => []
  | .function =>
    functionArguments dialect definition ++ (functionResult? dialect definition).toList
  | .object =>
    match shape? definition with
    | .ok (some shape) => shape.entries.map (·.2) ++ (openCatchall? dialect definition).toList
    | _ => []
  | _ => []

/-! ## Rules -/

/-- A rule faults as told, or else leaves these children in its template. -/
def Yields {α : Type} (outcome : Except RenderFault (Template α)) (fault? : Option RenderFault)
    (children : List α) : Prop :=
  match fault? with
  | some fault => outcome = .error fault
  | none => ∃ template, outcome = .ok template ∧ template.holes = children

namespace Rule

variable (reading : Reading) {whole : Value} {definition : Members whole}

theorem yields_of_template {α : Type} {template : Template α} {children : List α}
    (holes : template.holes = children) : Yields (.ok template) none children :=
  ⟨template, rfl, holes⟩

theorem dateText_of_good {check : Check} (fine : check.isBadDate = false)
    (bound : check.kind = "min" ∨ check.kind = "max") :
    ∃ text, dateText check.resolved = .ok text := by
  have names : namesDate check.resolved = true := by simpa [Check.isBadDate, bound] using fine
  exact dateText_of_namesDate names

theorem dateCalls_of_good {checks : List Check} (good : checks.find? (·.isBadDate) = none) :
    ∃ calls, dateCalls checks = .ok calls := by
  induction checks with
  | nil => exact ⟨[], rfl⟩
  | cons check rest ih =>
    rw [List.find?_cons] at good
    split at good
    · cases good
    · next fine =>
      obtain ⟨calls, later⟩ := ih good
      rw [dateCalls]
      split
      · next bound =>
        obtain ⟨text, here⟩ := dateText_of_good fine bound
        rw [here, later]
        exact ⟨_, rfl⟩
      · exact ⟨calls, later⟩

theorem dateCalls_of_bad {checks : List Check} {bad : Check}
    (first : checks.find? (·.isBadDate) = some bad) :
    dateCalls checks = .error (.invalidDate (dateComplaint bad.resolved)) := by
  induction checks with
  | nil => cases first
  | cons check rest ih =>
    rw [List.find?_cons] at first
    rw [dateCalls]
    split at first
    · next wrong =>
      obtain rfl : check = bad := Option.some.inj first
      obtain ⟨bound, names⟩ : (check.kind = "min" ∨ check.kind = "max") ∧
          namesDate check.resolved = false := by simpa [Check.isBadDate] using wrong
      rw [if_pos bound, dateText_of_not_namesDate names]
      rfl
    · next fine =>
      split
      · next bound =>
        obtain ⟨text, here⟩ := dateText_of_good fine bound
        rw [here, ih first]
        rfl
      · exact ih first

theorem date_yields :
    Yields (date reading definition) (Kind.date.fault? definition.fields) [] := by
  unfold Kind.fault?
  dsimp only
  cases found : definition.fields.checks.find? (·.isBadDate) with
  | none =>
    obtain ⟨calls, here⟩ := dateCalls_of_good found
    exact ⟨_, by rw [date, here]; rfl, rfl⟩
  | some bad =>
    show date reading definition = _
    rw [date, dateCalls_of_bad found]
    rfl

theorem modifier_yields (method : String) :
    Yields (modifier method reading definition) none
      (definition.truthy? "innerType").toList := by
  unfold modifier
  cases definition.truthy? "innerType" <;> exact yields_of_template rfl

theorem readonly_yields :
    Yields (readonly reading definition) none (definition.truthy? "innerType").toList := by
  unfold readonly
  cases definition.truthy? "innerType" <;> exact yields_of_template rfl

theorem fallback_yields (kind : Fallback) :
    Yields (fallback kind reading definition) none (definition.truthy? "innerType").toList := by
  unfold fallback
  cases definition.truthy? "innerType" <;> exact yields_of_template rfl

theorem branded_yields :
    Yields (branded reading definition) none (definition.nested? "type").toList := by
  unfold branded
  cases definition.nested? "type" <;> exact yields_of_template rfl

theorem promise_yields :
    Yields (promise reading definition) none
      (definition.truthy? "innerType" <|> definition.nested? "type").toList := by
  unfold promise
  cases (definition.truthy? "innerType" <|> definition.nested? "type") <;>
    exact yields_of_template rfl

theorem array_yields :
    Yields (array reading definition) none
      (definition.truthy? "element" <|> definition.nested? "type").toList := by
  unfold array
  cases (definition.truthy? "element" <|> definition.nested? "type") <;>
    exact yields_of_template rfl

theorem set_yields :
    Yields (set reading definition) none
      (definition.truthy? "valueType" <|> definition.truthy? "element").toList := by
  unfold set
  cases (definition.truthy? "valueType" <|> definition.truthy? "element") <;>
    exact yields_of_template rfl

theorem holes_list_between (opening closing : String) {α : Type} (children : List α) :
    Template.holes (.text opening :: Template.list children ++ [.text closing]) = children := by
  rw [Template.holes_append, Template.holes, Template.holes_list]
  exact List.append_nil _

theorem tuple_yields :
    Yields (tuple reading definition) none
      (definition.items "items" ++ (definition.truthy? "rest").toList) := by
  have items := holes_list_between "z.tuple([" "])" (definition.items "items")
  unfold tuple
  cases definition.truthy? "rest" with
  | none => exact yields_of_template (items.trans (List.append_nil _).symm)
  | some rest =>
    refine yields_of_template ?_
    rw [Template.holes_append, items]
    rfl

theorem keyed_yields (name : String) :
    Yields (keyed name reading definition) none
      ((definition.truthy? "keyType").toList ++ (definition.truthy? "valueType").toList) := by
  refine yields_of_template ?_
  cases definition.truthy? "keyType" <;> cases definition.truthy? "valueType" <;> rfl

theorem holes_discriminatedOf {α : Type} (discriminator : Option Value) (options : List α) :
    Template.holes (discriminatedOf discriminator options) = options :=
  holes_list_between _ _ options

theorem union_yields :
    Yields (union reading definition) none (definition.items "options") := by
  unfold union
  dsimp only
  split
  · exact yields_of_template (holes_discriminatedOf _ _)
  · exact yields_of_template (holes_list_between _ _ _)

theorem discriminatedUnion_yields :
    Yields (discriminatedUnion reading definition) none (definition.items "options") :=
  yields_of_template (holes_discriminatedOf _ _)

theorem holes_effectOf {α : Type} (inner : α) (effect : Option String) :
    Template.holes (effectOf inner effect) = [inner] := by
  unfold effectOf
  split <;> rfl

theorem effects_yields :
    Yields (effects reading definition) none (definition.truthy? "schema").toList := by
  unfold effects
  cases definition.truthy? "schema" with
  | none => exact yields_of_template rfl
  | some inner => exact yields_of_template (holes_effectOf _ _)

theorem holes_callWith {α : Type} (method : String) (arguments : List α) :
    Template.holes (callWith method arguments) = arguments := by
  unfold callWith
  split
  · next none => exact (List.isEmpty_iff.mp none).symm
  · exact holes_list_between _ _ _

theorem intersection_yields :
    Yields (intersection reading definition) none
      (Kind.intersection.children reading.dialect definition) := by
  unfold intersection Kind.children
  cases definition.truthy? "left" <;> cases definition.truthy? "right" <;>
    exact yields_of_template rfl

theorem pipe_yields :
    Yields (pipe reading definition) none (Kind.pipe.children reading.dialect definition) := by
  unfold pipe Kind.children pipeOutput? schemaAt?
  cases (definition.truthy? "in" <|> definition.truthy? "innerType") with
  | none => exact yields_of_template rfl
  | some input =>
    dsimp only
    cases (definition.get? "out").filter (reading.dialect.recognizes ·.1) with
    | none => exact yields_of_template rfl
    | some output =>
      dsimp only
      split
      · next bare => exact yields_of_template (by simp [Template.holes, bare])
      · next schema =>
        have kept := Option.filter_some_pos (a := output)
          (p := (reading.dialect.tag? ·.1 != some "transform")) (by simpa using schema)
        exact yields_of_template (by rw [kept]; rfl)

theorem pipeline_yields :
    Yields (pipeline reading definition) none
      (Kind.pipeline.children reading.dialect definition) := by
  unfold pipeline Kind.children
  cases definition.truthy? "in" <;> cases definition.truthy? "out" <;> exact yields_of_template rfl

theorem function_yields :
    Yields (function reading definition) none
      (Kind.function.children reading.dialect definition) := by
  refine yields_of_template ?_
  rw [Template.holes_append, ← Option.filter_filter, Template.holes, holes_callWith, holes_callWith]
  rfl

theorem shape?_of_message {message : String}
    (thrown : definition.fields.shapeMessage? = some message) :
    shape? definition = .error (.callback "shape" message) := by
  have seen := definition.get?_map_val "shape"
  unfold Fields.shapeMessage? at thrown
  split at thrown
  · next found =>
    cases thrown
    rw [found, Option.map_eq_some_iff] at seen
    obtain ⟨⟨value, lt⟩, get, rfl⟩ := seen
    rw [shape?, get]
    rfl
  · cases thrown

theorem shape?_of_no_message (quiet : definition.fields.shapeMessage? = none) :
    ∃ shape, shape? definition = .ok shape := by
  have seen := definition.get?_map_val "shape"
  unfold shape?
  cases get : definition.get? "shape" with
  | none => exact ⟨none, rfl⟩
  | some part =>
    rw [get] at seen
    cases answer : part.call with
    | ok shape => exact ⟨shape.members?, by simp only [answer]; rfl⟩
    | error message =>
      unfold Part.call at answer
      split at answer
      · cases answer
      · rw [Fields.shapeMessage?, ← seen] at quiet
        cases quiet
      · cases answer

theorem keyPolicy_writes (policy : Option Value) (tag : Option String) :
    (keyPolicy policy tag).2 =
      tag.any fun tag => tag != "never" && (policy.isSome || tag != "unknown") := by
  cases policy with
  | some value => cases tag <;> simp [keyPolicy]
  | none => cases tag <;> simp [keyPolicy, Bool.and_comm]

theorem object_yields :
    Yields (object reading definition) (Kind.object.fault? definition.fields)
      (Kind.object.children reading.dialect definition) := by
  unfold Kind.fault? Kind.children
  cases thrown : definition.fields.shapeMessage? with
  | some message =>
    show object reading definition = _
    rw [object, shape?_of_message thrown]
    rfl
  | none =>
    obtain ⟨shape, answer⟩ := shape?_of_no_message thrown
    dsimp only [Option.map_none]
    unfold object openCatchall? schemaAt?
    rw [answer]
    cases shape with
    | none => exact yields_of_template rfl
    | some shape =>
      dsimp only [bind, Except.bind]
      cases found : (definition.get? "catchall").filter (reading.dialect.recognizes ·.1) with
      | none => exact yields_of_template rfl
      | some catchall =>
        simp only [Option.bind_some, Option.filter_some, keyPolicy_writes]
        split
        · next written =>
          rw [written]
          exact yields_of_template rfl
        · next left =>
          rw [left]
          exact yields_of_template rfl

end Rule

open Rule in
/-- Every rule faults where its definition has a fault, and else renders the children of its
kind. -/
theorem Kind.rule_yields (kind : Kind) (reading : Reading) {whole : Value}
    (definition : Members whole) :
    Yields (kind.rule reading definition) (kind.fault? definition.fields)
      (kind.children reading.dialect definition) := by
  cases kind with
  | date => exact date_yields reading
  | optional | nullable | nullish => exact modifier_yields reading _
  | default | recovery => exact fallback_yields reading _
  | array => exact array_yields reading
  | object => exact object_yields reading
  | record | map => exact keyed_yields reading _
  | set => exact set_yields reading
  | tuple => exact tuple_yields reading
  | union => exact union_yields reading
  | discriminatedUnion => exact discriminatedUnion_yields reading
  | intersection => exact intersection_yields reading
  | promise => exact promise_yields reading
  | function => exact function_yields reading
  | effects => exact effects_yields reading
  | pipe => exact pipe_yields reading
  | pipeline => exact pipeline_yields reading
  | branded => exact branded_yields reading
  | readonly => exact readonly_yields reading
  | _ => exact yields_of_template rfl

end SchemaSource
