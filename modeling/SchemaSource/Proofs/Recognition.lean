import SchemaSource.Proofs.Nodes
/-!
What a dialect takes for a schema, against what it then finds in it. Recognition, tag and definition
are looked up each in their own way over layouts that may be mixed in one value; they still agree, so
that every schema tells its kind, and rendering has no use for a placeholder where one does not.
-/
namespace SchemaSource

namespace Dialect

variable {value inner : Value} {key : String} {keys : List String}

/-! ## Paths -/

theorem path?_of_missing (missing : value.get? key = none) : path? value (key :: keys) = none := by
  cases value with
  | object fields =>
    have unfound : Members.get? ⟨fields, Value.fieldsWeight_lt fields⟩ key = none :=
      Members.get?_of_missing missing
    simp [path?, Value.members?, unfound]
  | _ => rfl

/-- A path goes through one property after the other. -/
theorem path?_of_found (found : value.get? key = some inner) :
    (path? value (key :: keys)).map (·.fields) = (path? inner keys).map (·.fields) := by
  cases value with
  | object fields =>
    obtain ⟨lt, part⟩ : ∃ lt, Members.get? ⟨fields, Value.fieldsWeight_lt fields⟩ key =
        some (⟨inner, lt⟩ : Part (.object fields)) := Members.get?_of_field found
    simp only [path?, Value.members?, part, Option.bind_eq_bind, Option.bind_some, Option.pure_def]
    cases path? inner keys <;> rfl
  | _ => cases found

theorem path?_object (fields : Fields) :
    (path? (.object fields) []).map (·.fields) = some fields := rfl

/-! ## One dialect at a time -/

theorem isSome_classTag? (value : Value) :
    (classTag? value).isSome = (classDefinition? value).isSome := by
  cases found : classDefinition? value with
  | none => simp [classTag?, found]
  | some definition =>
    have named := (Option.filter_eq_some_iff.mp found).2
    obtain ⟨name, named⟩ := Option.isSome_iff_exists.mp named
    simp [classTag?, found, named]

/-- A definition in the inner object tells the kind. -/
theorem isSome_tagAt? (found : (innerDefinition? value).isSome = true) :
    (tagAt? value ["_zod", "def"]).isSome = true := by
  obtain ⟨definition, found⟩ := Option.isSome_iff_exists.mp found
  obtain ⟨there, named⟩ := Option.filter_eq_some_iff.mp found
  rw [tagAt?, there]
  exact named

theorem recognizes_iff_tag (version : Version) (value : Value) :
    version.dialect.recognizes value = true ↔ ∃ tag, version.dialect.tag? value = some tag := by
  rw [← Option.isSome_iff_exists]
  cases version with
  | v3 =>
    change (classDefinition? value).isSome = true ↔ (classTag? value).isSome = true
    rw [isSome_classTag?]
  | v4 =>
    change isCurrent value = true ↔
      (if isCurrent value then _ else none : Option String).isSome = true
    by_cases current : isCurrent value = true
    · rw [if_pos current]
      refine iff_of_true current ?_
      have either : (innerDefinition? value).isSome = true ∨ isSmall value = true ∨
          (classDefinition? value).isSome = true := by
        simpa [isCurrent, or_assoc] using current
      rcases either with inner | small | classic
      · simp [isSome_tagAt? inner]
      · simp [(Bool.and_eq_true_iff.mp small).1]
      · simp [isSome_classTag?, classic]
    · rw [if_neg current]
      exact iff_of_false current Bool.false_ne_true

theorem recognizes_of_definition {version : Version} {definition : Members value}
    (found : version.dialect.definition? value = some definition) :
    version.dialect.recognizes value = true := by
  cases version with
  | v3 => exact Option.isSome_iff_exists.mpr ⟨definition, found⟩
  | v4 =>
    change (if isCurrent value then _ else none) = some definition at found
    split at found
    · next current => exact current
    · cases found

/-! ## The two dialects together -/

/-- What stands in the inner object is the definition, whatever else a value has. -/
theorem definition_of_inner {fields : Fields} (outer : value.get? "_zod" = some inner)
    (held : inner.get? "def" = some (.object fields)) (named : (fields.string? "type").isSome) :
    v4.recognizes value = true ∧
      ∃ definition, v4.definition? value = some definition ∧ definition.fields = fields := by
  have there : (path? value ["_zod", "def"]).map (·.fields) = some fields := by
    rw [path?_of_found outer, path?_of_found held, path?_object]
  obtain ⟨definition, path, rfl⟩ := Option.map_eq_some_iff.mp there
  have own : innerDefinition? value = some definition :=
    Option.filter_eq_some_iff.mpr ⟨path, named⟩
  have current : isCurrent value = true := by simp [isCurrent, own]
  refine ⟨current, definition, ?_, rfl⟩
  change (if isCurrent value then _ else none) = some definition
  rw [if_pos current, path]
  rfl

/-- Without a layout of its own, a value is read by the later dialect as by the earlier. -/
theorem v4_eq_v3 (untyped : ownTag? value = none) (noInner : value.get? "_zod" = none)
    (noShortcut : value.get? "def" = none) :
    v4.tag? value = v3.tag? value ∧ v4.definition? value = v3.definition? value := by
  have inner : path? value ["_zod", "def"] = none := path?_of_missing noInner
  have shortcut : path? value ["def"] = none := path?_of_missing noShortcut
  have current : isCurrent value = (classDefinition? value).isSome := by
    simp [isCurrent, isSmall, innerDefinition?, inner, untyped]
  constructor
  · change (if isCurrent value then _ else none) = classTag? value
    rw [current, ← isSome_classTag?, untyped, tagAt?, tagAt?, inner, shortcut]
    cases classTag? value <;> rfl
  · change (if isCurrent value then _ else none) = classDefinition? value
    rw [current, inner, shortcut]
    cases found : classDefinition? value with
    | none => rfl
    | some definition =>
      have path := (Option.filter_eq_some_iff.mp found).1
      rw [path]
      rfl

end Dialect

/-! ## The placeholder -/

namespace Renderer

/-- Rendering with another outcome for schemas that do not tell their kind. -/
def renderAtOr (unknown : Value → Except RenderFault Doc) (renderer : Renderer)
    (options : Options) (level : Nat) (node : Value) : Except RenderFault Doc :=
  if renderer.dialect.recognizes node then
    match renderer.dialect.tag? node with
    | none => unknown node
    | some name =>
      match renderer.registry.get? (.ofName name) with
      | none => return .text (unhandled name)
      | some handler => do
        let doc ← handler node
          { dialect := renderer.dialect
            options
            level
            render := fun part level => renderAtOr unknown renderer options level part.1 }
        return doc.getD (.text (unhandled name))
  else return .text (notASchema node)
termination_by node.weight
decreasing_by exact part.2

/-- Two outcomes that agree wherever a schema does not tell its kind make no difference. -/
theorem renderAtOr_congr {unknown unknown' : Value → Except RenderFault Doc} {renderer : Renderer}
    (agree : ∀ node, renderer.dialect.recognizes node = true →
      renderer.dialect.tag? node = none → unknown node = unknown' node)
    (options : Options) (level : Nat) (node : Value) :
    renderAtOr unknown renderer options level node =
      renderAtOr unknown' renderer options level node := by
  induction node using Part.induction generalizing level with
  | step node ih =>
    have parts : (fun (part : Part node) level =>
          renderAtOr unknown renderer options level part.1) =
        fun part level => renderAtOr unknown' renderer options level part.1 := by
      funext part level
      exact ih part level
    rw [renderAtOr, renderAtOr, parts]
    split
    · next recognized =>
      cases tagged : renderer.dialect.tag? node with
      | none => exact agree node recognized tagged
      | some tag => rfl
    · rfl

theorem renderAtOr_unknownType (renderer : Renderer) (options : Options) (level : Nat)
    (node : Value) :
    renderAtOr (fun _ => .ok (.text unknownType)) renderer options level node =
      renderer.renderAt options level node := by
  induction node using Part.induction generalizing level with
  | step node ih =>
    have parts : (fun (part : Part node) level =>
          renderAtOr (fun _ => .ok (.text unknownType)) renderer options level part.1) =
        fun part level => renderer.renderAt options level part.1 := by
      funext part level
      exact ih part level
    rw [renderAtOr, renderAt, parts]
    rfl

/-- Whatever stood in the place of the placeholder, it would not be seen. -/
theorem renderAtOr_eq (unknown : Value → Except RenderFault Doc) (version : Version)
    (registry : Registry) (options : Options) (level : Nat) (node : Value) :
    renderAtOr unknown ⟨version.dialect, registry⟩ options level node =
      renderAt ⟨version.dialect, registry⟩ options level node := by
  rw [← renderAtOr_unknownType]
  refine renderAtOr_congr (fun node recognized untagged => ?_) options level node
  obtain ⟨tag, tagged⟩ := (Dialect.recognizes_iff_tag version node).mp recognized
  rw [untagged] at tagged
  cases tagged

end Renderer

/-- **Recognition, tags and definitions agree.** In either dialect a value is a schema just if it has
a tag, and has a definition only if it is one. The later dialect takes all schemas of the earlier,
reads them alike where they have no layout of its own, and finds the definition in the inner object
where there is one. So no schema at any depth is rendered by the placeholder for those that do not
tell their kind, whatever handlers there are: any other outcome could stand there. -/
theorem Dialect.lookups_agree (value : Value) :
    (∀ version : Version,
      (version.dialect.recognizes value = true ↔
        ∃ tag, version.dialect.tag? value = some tag) ∧
      ((∃ definition, version.dialect.definition? value = some definition) →
        version.dialect.recognizes value = true)) ∧
    (v3.recognizes value = true →
      (∃ definition, v3.definition? value = some definition) ∧ v4.recognizes value = true) ∧
    (∀ (inner : Value) (fields : Fields) (tag : String), value.get? "_zod" = some inner →
      inner.get? "def" = some (.object fields) → fields.get? "type" = some (.string tag) →
        v4.recognizes value = true ∧
          ∃ definition, v4.definition? value = some definition ∧ definition.fields = fields) ∧
    ((∀ tag, value.get? "type" ≠ some (.string tag)) → value.get? "_zod" = none →
      value.get? "def" = none →
        v4.tag? value = v3.tag? value ∧ v4.definition? value = v3.definition? value) ∧
    ∀ (version : Version) (registry : Registry) (options : Options) (level : Nat)
      (unknown : Value → Except RenderFault Doc),
      Renderer.renderAtOr unknown ⟨version.dialect, registry⟩ options level value =
        Renderer.renderAt ⟨version.dialect, registry⟩ options level value := by
  refine ⟨fun version => ⟨recognizes_iff_tag version value, ?_⟩, ?_, ?_, ?_, ?_⟩
  · rintro ⟨definition, found⟩
    exact recognizes_of_definition found
  · intro recognized
    have current : isCurrent value = true := by
      simp [isCurrent, show (classDefinition? value).isSome = true from recognized]
    exact ⟨Option.isSome_iff_exists.mp recognized, current⟩
  · intro inner fields tag outer held named
    exact definition_of_inner outer held (by rw [Fields.string?, named]; rfl)
  · intro untyped
    refine v4_eq_v3 ?_
    rw [ownTag?, Option.bind_eq_none_iff]
    intro type found
    cases type with
    | string tag => exact absurd found (untyped tag)
    | _ => rfl
  · intro version registry options level unknown
    exact Renderer.renderAtOr_eq unknown version registry options level value

/-- A value that each of the layouts would tell another kind of. -/
def mixedLayouts : Value :=
  .object [("type", .string "pipe"), ("parse", .thunk .undefined),
    ("_zod", .object [("def", .object [("type", .string "date")])]),
    ("_def", .object [("typeName", .string "ZodNumber")])]

theorem Dialect.lookups_agree_mixed :
    v3.tag? mixedLayouts = some "number" ∧ v4.tag? mixedLayouts = some "pipe" ∧
      v4.recognizes mixedLayouts = true ∧
      (∃ definition, v4.definition? mixedLayouts = some definition ∧
        definition.fields = [("type", .string "date")]) ∧
      ∀ unknown, Renderer.renderAtOr unknown (.ofVersion .v4) {} 0 mixedLayouts =
        (Renderer.ofVersion .v4).renderAt {} 0 mixedLayouts := by
  obtain ⟨-, earlier, inner, -, placeholder⟩ := lookups_agree mixedLayouts
  exact ⟨rfl, rfl, (earlier rfl).2, (inner _ _ _ rfl rfl rfl).2,
    fun unknown => placeholder .v4 .builtin {} 0 unknown⟩

end SchemaSource
