import SchemaSource.Proofs.Constraints
import SchemaSource.Proofs.Nodes
import SchemaSource.Proofs.Template
/-!
What each rule makes of a definition, told by the fields of the definition. Fields that one layout
names otherwise are read under either name.
-/
namespace SchemaSource.Rule

variable {reading : Reading} {whole : Value} {definition : Members whole}

/-! ## Constructors with constraints -/

/-- A constructor that may convert its input first. -/
def constructorText (coerce : Bool) (name : String) : String :=
  if coerce then "z.coerce." ++ name ++ "()" else "z." ++ name ++ "()"

theorem constructor_of_coerce {fields : Fields} {coerce : Bool}
    (field : fields.get? "coerce" = some (.bool coerce)) (name : String) :
    constructor name fields = constructorText coerce name := by
  rw [constructor, field]
  rfl

theorem checks_of_field {fields : Fields} {entries : List Value}
    (field : fields.get? "checks" = some (.array entries)) :
    fields.checks = entries.filterMap Check.ofEntry? := by
  rw [Fields.checks, field]
  rfl

theorem checks_of_missing {fields : Fields} (missing : fields.get? "checks" = none) :
    fields.checks = [] := by
  rw [Fields.checks, missing]
  rfl

/-- Entries that are each written as one call. -/
theorem calls_of_entries {α : Type} {call? : Check → Option String} {entry : α → Value}
    {text : α → String} (each : ∀ a, (Check.ofEntry? (entry a)).bind call? = some (text a))
    (constraints : List α) :
    ((constraints.map entry).filterMap Check.ofEntry?).filterMap call? = constraints.map text := by
  rw [List.filterMap_filterMap, List.filterMap_map, ← List.filterMap_eq_map]
  congr 1
  funext a
  exact each a

theorem view_boolean {coerce : Bool}
    (field : definition.fields.get? "coerce" = some (.bool coerce)) :
    Rule.boolean.view reading definition = .ok (.text (constructorText coerce "boolean")) := by
  rw [← constructor_of_coerce field]
  rfl

theorem view_string {coerce : Bool} {layout : Version} {checks : List StringCheck}
    (flag : definition.fields.get? "coerce" = some (.bool coerce))
    (entries : definition.fields.get? "checks" =
      some (.array (checks.map (StringCheck.entry layout)))) :
    Rule.string.view reading definition =
      .ok (.text
        (constructorText coerce "string" ++ String.join (checks.map StringCheck.text))) := by
  have calls := calls_of_entries (StringCheck.stringCall?_entry layout) checks
  rw [← checks_of_field entries] at calls
  rw [← constructor_of_coerce flag, ← calls]
  rfl

theorem view_number {coerce : Bool} {layout : Version} {checks : List NumberCheck}
    (flag : definition.fields.get? "coerce" = some (.bool coerce))
    (entries : definition.fields.get? "checks" =
      some (.array (checks.map (RangeCheck.entry .number layout)))) :
    Rule.number.view reading definition =
      .ok (.text (constructorText coerce "number" ++ String.join
        ((numberCalls reading.optimizations.semanticMethods false
          (checks.map (RangeCheck.check .number))).map
            (·.text (numberBound reading.optimizations))))) := by
  rw [← constructor_of_coerce flag, ← numberCalls_entries layout, ← checks_of_field entries]
  rfl

theorem view_bigint {coerce : Bool} {layout : Version} {checks : List BigintCheck}
    (flag : definition.fields.get? "coerce" = some (.bool coerce))
    (entries : definition.fields.get? "checks" =
      some (.array (checks.map (RangeCheck.entry .bigint layout)))) :
    Rule.bigint.view reading definition =
      .ok (.text (constructorText coerce "bigint" ++ String.join
        (((checks.map (RangeCheck.check .bigint)).filterMap
          (bigintCall? reading.optimizations.semanticMethods)).map
            (·.text (bigintBound reading.optimizations))))) := by
  rw [← constructor_of_coerce flag, ← bigintCalls_entries layout, ← checks_of_field entries]
  rfl

theorem view_date {coerce : Bool} {layout : Version} {checks : List DateCheck}
    (flag : definition.fields.get? "coerce" = some (.bool coerce))
    (entries : definition.fields.get? "checks" =
      some (.array (checks.map (DateCheck.entry layout)))) :
    Rule.date.view reading definition =
      (dateCalls (checks.map DateCheck.check)).map fun calls =>
        .text (constructorText coerce "date" ++ String.join calls) := by
  rw [← constructor_of_coerce flag, ← dateCalls_entries layout, ← checks_of_field entries,
    Rule.view, Rule.date]
  cases dateCalls definition.fields.checks <;> rfl

/-! ## Given values -/

theorem view_literal {value : Value} (given : literalValue definition.fields = value) :
    Rule.literal.view reading definition =
      .ok (.text ("z.literal(" ++ literalText value ++ ")")) := by
  rw [← given]
  rfl

theorem literalValue_of_value {fields : Fields} {value : Value}
    (field : fields.get? "value" = some value) (missing : fields.get? "values" = none) :
    literalValue fields = value := by
  rw [literalValue, field, missing]
  cases value <;> rfl

theorem literalValue_of_values {fields : Fields} {value : Value} {others : List Value}
    (missing : fields.get? "value" = none)
    (field : fields.get? "values" = some (.array (value :: others))) :
    literalValue fields = value := by
  rw [literalValue, missing, field]
  rfl

theorem enumMembers_of_values {fields : Fields} {members : List Value}
    (field : fields.get? "values" = some (.array members)) : enumMembers fields = members := by
  rw [enumMembers, field]
  rfl

theorem enumMembers_of_entries {fields entries : Fields} (missing : fields.get? "values" = none)
    (field : fields.get? "entries" = some (.object entries)) :
    enumMembers fields = entries.values := by
  rw [enumMembers, missing, field]
  rfl

theorem view_enumeration {members : List String}
    (given : enumMembers definition.fields = members.map .string) :
    Rule.enumeration.view reading definition =
      .ok (.text ("z.enum([" ++ ", ".intercalate (members.map Text.quote) ++ "])")) := by
  rw [Rule.view, enumeration, given, List.map_map]
  rfl

/-! ## Around one schema -/

theorem view_modifier {inner : Value} (method : String)
    (field : definition.fields.get? "innerType" = some inner) (object : inner.isObject = true) :
    (Rule.modifier method).view reading definition =
      .ok [.hole inner, .text ("." ++ method ++ "()")] := by
  obtain ⟨lt, truthy⟩ := Members.truthy?_of_field field (Value.countsAsTrue_of_isObject object)
  rw [Rule.view, modifier, truthy]
  rfl

theorem view_readonly {inner : Value}
    (field : definition.fields.get? "innerType" = some inner) (object : inner.isObject = true) :
    Rule.readonly.view reading definition = .ok [.hole inner, .text ".readonly()"] := by
  obtain ⟨lt, truthy⟩ := Members.truthy?_of_field field (Value.countsAsTrue_of_isObject object)
  rw [Rule.view, readonly, truthy]
  rfl

theorem view_fallback {inner : Value} {value : Option Value} (kind : Fallback)
    (field : definition.fields.get? "innerType" = some inner) (object : inner.isObject = true)
    (given : definition.fields.get? kind.key = value) :
    (Rule.fallback kind).view reading definition =
      .ok [.hole inner, .text ("." ++ kind.method ++ "(" ++ kind.argument value ++ ")")] := by
  obtain ⟨lt, truthy⟩ := Members.truthy?_of_field field (Value.countsAsTrue_of_isObject object)
  rw [Rule.view, fallback, truthy, given]
  rfl

/-- A child stands under its own name, or as an object in the place of the type. -/
theorem ownOrType {key : String} {inner : Value} (object : inner.isObject = true)
    (field : definition.fields.get? key = some inner ∨
      definition.fields.get? key = none ∧ definition.fields.get? "type" = some inner) :
    ∃ lt, (definition.truthy? key <|> definition.nested? "type") = some ⟨inner, lt⟩ := by
  rcases field with own | ⟨missing, type⟩
  · obtain ⟨lt, truthy⟩ := Members.truthy?_of_field own (Value.countsAsTrue_of_isObject object)
    exact ⟨lt, by rw [truthy]; rfl⟩
  · obtain ⟨lt, nested⟩ := Members.nested?_of_field type object
    exact ⟨lt, by rw [Members.truthy?_of_missing missing, nested]; rfl⟩

theorem view_promise {inner : Value} (object : inner.isObject = true)
    (field : definition.fields.get? "innerType" = some inner ∨
      definition.fields.get? "innerType" = none ∧ definition.fields.get? "type" = some inner) :
    Rule.promise.view reading definition =
      .ok [.text "z.promise(", .hole inner, .text ")"] := by
  obtain ⟨lt, child⟩ := ownOrType object field
  rw [Rule.view, promise, child]
  rfl

theorem view_array {element : Value} {calls : List String} (object : element.isObject = true)
    (field : definition.fields.get? "element" = some element ∨
      definition.fields.get? "element" = none ∧ definition.fields.get? "type" = some element)
    (bounds : boundCalls definition.fields arrayCounts "length" = calls) :
    Rule.array.view reading definition =
      .ok [.text "z.array(", .hole element, .text (")" ++ String.join calls)] := by
  obtain ⟨lt, child⟩ := ownOrType object field
  rw [Rule.view, array, child, bounds]
  rfl

theorem view_set {element : Value} {calls : List String} (object : element.isObject = true)
    (field : definition.fields.get? "valueType" = some element)
    (bounds : boundCalls definition.fields setCounts "size" = calls) :
    Rule.set.view reading definition =
      .ok [.text "z.set(", .hole element, .text (")" ++ String.join calls)] := by
  obtain ⟨lt, truthy⟩ := Members.truthy?_of_field field (Value.countsAsTrue_of_isObject object)
  rw [Rule.view, set, truthy, bounds]
  rfl

/-! ## Around several schemas -/

theorem view_keyed {key value : Value} (name : String)
    (keyField : definition.fields.get? "keyType" = some key) (keyObject : key.isObject = true)
    (valueField : definition.fields.get? "valueType" = some value)
    (valueObject : value.isObject = true) :
    (Rule.keyed name).view reading definition =
      .ok [.text ("z." ++ name ++ "("), .hole key, .text ", ", .hole value, .text ")"] := by
  obtain ⟨_, first⟩ := Members.truthy?_of_field keyField (Value.countsAsTrue_of_isObject keyObject)
  obtain ⟨_, second⟩ :=
    Members.truthy?_of_field valueField (Value.countsAsTrue_of_isObject valueObject)
  rw [Rule.view, keyed, first, second]
  rfl

theorem view_of_ok {rule : Rule} {template : Template (Part whole)}
    (answer : rule reading definition = .ok template) :
    rule.view reading definition = .ok (template.map (·.1)) := by
  rw [Rule.view, answer]
  rfl

theorem view_tuple {items : List Value}
    (field : definition.fields.get? "items" = some (.array items))
    (closed : definition.truthy? "rest" = none) :
    Rule.tuple.view reading definition =
      .ok (.text "z.tuple([" :: Template.list items ++ [.text "])"]) := by
  have answer : tuple reading definition =
      .ok (.text "z.tuple([" :: Template.list (definition.items "items") ++ [.text "])"]) := by
    rw [tuple, closed]
    rfl
  rw [view_of_ok answer, ← Members.items_of_field field, ← Template.map_list,
    List.cons_append, Template.map_cons, Template.map_append]
  rfl

theorem view_openTuple {items : List Value} {rest : Value}
    (field : definition.fields.get? "items" = some (.array items))
    (restField : definition.fields.get? "rest" = some rest) (object : rest.isObject = true) :
    Rule.tuple.view reading definition =
      .ok (.text "z.tuple([" :: Template.list items
        ++ [.text "])", .text ".rest(", .hole rest, .text ")"]) := by
  obtain ⟨lt, truthy⟩ := Members.truthy?_of_field restField (Value.countsAsTrue_of_isObject object)
  have answer : tuple reading definition =
      .ok (.text "z.tuple([" :: Template.list (definition.items "items")
        ++ [.text "])", .text ".rest(", .hole ⟨rest, lt⟩, .text ")"]) := by
    rw [tuple, truthy]
    simp only [List.cons_append, List.append_assoc]
    rfl
  rw [view_of_ok answer, ← Members.items_of_field field, ← Template.map_list,
    List.cons_append, Template.map_cons, Template.map_append]
  rfl

theorem view_union {options : List Value}
    (plain : definition.fields.get? "discriminator" = none)
    (field : definition.fields.get? "options" = some (.array options)) :
    Rule.union.view reading definition = .ok (unionOf options) := by
  have answer : union reading definition = .ok (unionOf (definition.items "options")) := by
    rw [union, plain]
    rfl
  rw [view_of_ok answer, ← Members.items_of_field field, unionOf, unionOf, ← Template.map_list,
    List.cons_append, Template.map_cons, Template.map_append]
  rfl

theorem map_discriminatedOf (discriminator : Option Value) (options : List (Part whole)) :
    (discriminatedOf discriminator options).map (·.1) =
      discriminatedOf discriminator (options.map (·.1)) := by
  rw [discriminatedOf, discriminatedOf, ← Template.map_list, List.cons_append, Template.map_cons,
    Template.map_append]
  rfl

theorem view_discriminatedUnion {discriminator : Value} {options : List Value}
    (named : definition.fields.get? "discriminator" = some discriminator)
    (field : definition.fields.get? "options" = some (.array options)) :
    Rule.discriminatedUnion.view reading definition =
      .ok (discriminatedOf (some discriminator) options) := by
  have answer : discriminatedUnion reading definition =
      .ok (discriminatedOf (some discriminator) (definition.items "options")) := by
    rw [discriminatedUnion, named]
    rfl
  rw [view_of_ok answer, map_discriminatedOf, Members.items_of_field field]

/-- A union that names a discriminator is written as one that has a kind of its own for that. -/
theorem view_union_of_discriminator {discriminator : Value} {options : List Value}
    (named : definition.fields.get? "discriminator" = some discriminator)
    (counts : discriminator.countsAsTrue = true)
    (field : definition.fields.get? "options" = some (.array options)) :
    Rule.union.view reading definition =
      .ok (discriminatedOf (some discriminator) options) := by
  have answer : union reading definition =
      .ok (discriminatedOf (some discriminator) (definition.items "options")) := by
    rw [union, named, Option.filter_some_pos counts]
    rfl
  rw [view_of_ok answer, map_discriminatedOf, Members.items_of_field field]

theorem view_intersection {left right : Value}
    (leftField : definition.fields.get? "left" = some left) (leftObject : left.isObject = true)
    (rightField : definition.fields.get? "right" = some right)
    (rightObject : right.isObject = true) :
    Rule.intersection.view reading definition =
      .ok [.text "z.intersection(", .hole left, .text ", ", .hole right, .text ")"] := by
  obtain ⟨_, first⟩ :=
    Members.truthy?_of_field leftField (Value.countsAsTrue_of_isObject leftObject)
  obtain ⟨_, second⟩ :=
    Members.truthy?_of_field rightField (Value.countsAsTrue_of_isObject rightObject)
  rw [Rule.view, intersection, first, second]
  rfl

/-! ## Objects -/

/-- A field that has to hold a schema. -/
theorem schema_of_field {dialect : Dialect} {key : String} {value : Value} {kind : Kind}
    (field : definition.fields.get? key = some value) (knows : dialect.Knows kind value) :
    ∃ lt, (definition.get? key).filter (dialect.recognizes ·.1) = some ⟨value, lt⟩ := by
  obtain ⟨lt, get⟩ := Members.get?_of_field field
  refine ⟨lt, ?_⟩
  rw [get]
  exact Option.filter_some_pos knows.recognized

theorem shape?_of_field {shape : Fields}
    (field : definition.fields.get? "shape" = some (.object shape) ∨
      definition.fields.get? "shape" = some (.thunk (.object shape))) :
    ∃ members, shape? definition = .ok (some members) ∧ members.fields = shape := by
  rcases field with given | thunk
  · obtain ⟨lt, get⟩ := Members.get?_of_field given
    rw [shape?, get]
    exact ⟨_, rfl, rfl⟩
  · obtain ⟨lt, get⟩ := Members.get?_of_field thunk
    rw [shape?, get]
    exact ⟨_, rfl, rfl⟩

/-- The catch-all schema, where there is one. -/
def catchallOf (reading : Reading) (definition : Members whole) : Option (Part whole) :=
  (definition.get? "catchall").filter (reading.dialect.recognizes ·.1)

theorem catchallOf_of_field {catchall : Value} {kind : Kind}
    (field : definition.fields.get? "catchall" = some catchall)
    (knows : reading.dialect.Knows kind catchall) :
    ∃ lt, catchallOf reading definition = some ⟨catchall, lt⟩ := schema_of_field field knows

theorem catchallOf_of_missing (missing : definition.fields.get? "catchall" = none) :
    catchallOf reading definition = none := by
  rw [catchallOf, Members.get?_of_missing missing]
  rfl

/-- How a definition decides on unnamed properties. -/
def decided (reading : Reading) (definition : Members whole) : KeyPolicy × Bool :=
  keyPolicy ((definition.fields.get? "unknownKeys").filter (!·.isUndefined))
    ((catchallOf reading definition).bind (reading.dialect.tag? ·.1))

theorem decided_of_policy {policy catchall : Value} {kind : Kind}
    (given : definition.fields.get? "unknownKeys" = some policy)
    (something : policy.isUndefined = false)
    (rest : definition.fields.get? "catchall" = some catchall)
    (knows : reading.dialect.Knows kind catchall) :
    decided reading definition = (.ofValue policy, kind.tag != "never") := by
  obtain ⟨lt, found⟩ := catchallOf_of_field rest knows
  rw [decided, given, found, Option.filter_some_pos (by simp [something]), Option.bind_some,
    knows.tag]
  rfl

theorem decided_of_catchall {catchall : Value} {kind : Kind}
    (missing : definition.fields.get? "unknownKeys" = none)
    (rest : definition.fields.get? "catchall" = some catchall)
    (knows : reading.dialect.Knows kind catchall) :
    decided reading definition =
      (.ofCatchall (some kind.tag), kind.tag != "unknown" && kind.tag != "never") := by
  obtain ⟨lt, found⟩ := catchallOf_of_field rest knows
  rw [decided, missing, found, Option.bind_some, knows.tag]
  rfl

theorem decided_of_nothing (missing : definition.fields.get? "unknownKeys" = none)
    (alone : definition.fields.get? "catchall" = none) :
    decided reading definition = (.strip, false) := by
  rw [decided, missing, catchallOf_of_missing alone]
  rfl

theorem object_of_shape {shape : Members whole}
    (answered : shape? definition = .ok (some shape)) :
    object reading definition =
      let properties : Template _ := [.text "z.object(", .block shape.entries,
        .text (")" ++ (decided reading definition).1.text)]
      match (catchallOf reading definition).filter fun _ => (decided reading definition).2 with
      | some catchall => .ok (properties ++ [.text ".catchall(", .hole catchall, .text ")"])
      | none => .ok properties := by
  rw [object, answered]
  rfl

theorem view_object {shape : Fields} {policy : KeyPolicy}
    (field : definition.fields.get? "shape" = some (.object shape) ∨
      definition.fields.get? "shape" = some (.thunk (.object shape)))
    (kept : decided reading definition = (policy, false)) :
    Rule.object.view reading definition =
      .ok [.text "z.object(", .block shape, .text (")" ++ policy.text)] := by
  obtain ⟨members, answered, rfl⟩ := shape?_of_field field
  have none : (catchallOf reading definition).filter (fun _ => false) = none := by
    cases catchallOf reading definition <;> rfl
  have answer : object reading definition =
      .ok [.text "z.object(", .block members.entries, .text (")" ++ policy.text)] := by
    rw [object_of_shape answered, kept]
    dsimp only
    rw [none]
  rw [view_of_ok answer]
  simp only [Template.map_cons, Piece.map, Members.entries_map]
  rfl

theorem view_openObject {shape : Fields} {catchall : Value} {kind : Kind}
    (field : definition.fields.get? "shape" = some (.object shape) ∨
      definition.fields.get? "shape" = some (.thunk (.object shape)))
    (rest : definition.fields.get? "catchall" = some catchall)
    (knows : reading.dialect.Knows kind catchall)
    (written : decided reading definition = (.strip, true)) :
    Rule.object.view reading definition =
      .ok [.text "z.object(", .block shape, .text ")", .text ".catchall(", .hole catchall,
        .text ")"] := by
  obtain ⟨members, answered, rfl⟩ := shape?_of_field field
  obtain ⟨lt, found⟩ := catchallOf_of_field rest knows
  have answer : object reading definition =
      .ok [.text "z.object(", .block members.entries, .text ")", .text ".catchall(",
        .hole ⟨catchall, lt⟩, .text ")"] := by
    rw [object_of_shape answered, written, found]
    rfl
  rw [view_of_ok answer]
  simp only [Template.map_cons, Piece.map, Members.entries_map]
  rfl

/-! ## Effects and pipes -/

theorem view_effects {inner effect : Value} (field : definition.fields.get? "schema" = some inner)
    (object : inner.isObject = true)
    (effectField : definition.fields.get? "effect" = some effect)
    (transform : effect.get? "type" = some (.string "transform")) :
    Rule.effects.view reading definition =
      .ok [.hole inner, .text (hiddenFunction "transform" "transform")] := by
  obtain ⟨_, truthy⟩ := Members.truthy?_of_field field (Value.countsAsTrue_of_isObject object)
  have kind : ((definition.fields.get? "effect").bind (·.get? "type")).bind Value.string? =
      some "transform" := by
    rw [effectField, Option.bind_some, transform]
    rfl
  rw [Rule.view, effects, truthy]
  dsimp only
  rw [kind]
  rfl

/-- A pipe that leads into a bare function. -/
theorem view_pipe_transform {input output : Value}
    (field : definition.fields.get? "in" = some input) (object : input.isObject = true)
    (outField : definition.fields.get? "out" = some output)
    (knows : reading.dialect.Knows .transform output) :
    Rule.pipe.view reading definition =
      .ok [.hole input, .text (hiddenFunction "transform" "transform")] := by
  obtain ⟨inside, first⟩ := Members.truthy?_of_field field (Value.countsAsTrue_of_isObject object)
  obtain ⟨lt, out⟩ := schema_of_field outField knows
  have answer : pipe reading definition =
      .ok [.hole ⟨input, inside⟩, .text (hiddenFunction "transform" "transform")] := by
    rw [pipe, first, out]
    exact if_pos knows.tag
  rw [view_of_ok answer]
  rfl

theorem view_pipe {input output : Value} {kind : Kind}
    (field : definition.fields.get? "in" = some input) (object : input.isObject = true)
    (outField : definition.fields.get? "out" = some output)
    (knows : reading.dialect.Knows kind output) (schema : kind ≠ .transform) :
    Rule.pipe.view reading definition =
      .ok [.hole input, .text ".pipe(", .hole output, .text ")"] := by
  obtain ⟨inside, first⟩ := Members.truthy?_of_field field (Value.countsAsTrue_of_isObject object)
  obtain ⟨lt, out⟩ := schema_of_field outField knows
  have other : reading.dialect.tag? output ≠ some "transform" := by
    rw [knows.tag]
    intro same
    cases kind <;> first | exact schema rfl | exact absurd same (by decide)
  have answer : pipe reading definition = .ok (pipeTo ⟨input, inside⟩ ⟨output, lt⟩) := by
    rw [pipe, first, out]
    exact if_neg other
  rw [view_of_ok answer]
  rfl

theorem view_pipeline {input output : Value}
    (field : definition.fields.get? "in" = some input) (object : input.isObject = true)
    (outField : definition.fields.get? "out" = some output)
    (outObject : output.isObject = true) :
    Rule.pipeline.view reading definition =
      .ok [.hole input, .text ".pipe(", .hole output, .text ")"] := by
  obtain ⟨_, first⟩ := Members.truthy?_of_field field (Value.countsAsTrue_of_isObject object)
  obtain ⟨_, second⟩ := Members.truthy?_of_field outField (Value.countsAsTrue_of_isObject outObject)
  rw [Rule.view, pipeline, first, second]
  rfl

end SchemaSource.Rule
