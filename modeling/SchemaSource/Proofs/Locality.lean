import SchemaSource.Proofs.Faults
import SchemaSource.Proofs.ModuleText
import SchemaSource.Proofs.Registrations
/-!
A registration reaches no further than its tag. Rendering asks the registry for the tags of the
values that it visits and for no others; a tag that a rule reads off a child, to decide what it
writes, is never looked up. So a handler makes no difference where no schema has its tag.
-/
namespace SchemaSource

/-! ## What a template asks for -/

namespace Template

variable {α ε : Type} {render render' : α → Nat → Except ε Doc}

theorem fillEntries_congr {entries : List (String × α)}
    (same : ∀ child ∈ entries.map (·.2), ∀ deeper, render child deeper = render' child deeper) :
    fillEntries render entries = fillEntries render' entries := by
  induction entries with
  | nil => rfl
  | cons entry rest ih =>
    obtain ⟨first, others⟩ := List.forall_mem_cons.mp same
    simp only [fillEntries, first 1, ih others]

theorem fillPieces_congr {template : Template α}
    (same : ∀ child ∈ template.holes, ∀ deeper, render child deeper = render' child deeper) :
    fillPieces render template = fillPieces render' template := by
  induction template with
  | nil => rfl
  | cons piece rest ih =>
    cases piece with
    | text content => simp only [fillPieces, ih same]
    | hole child =>
      obtain ⟨first, others⟩ := List.forall_mem_cons.mp same
      simp only [fillPieces, first 0, ih others]
    | block entries =>
      have first := fillEntries_congr fun child member =>
        same child (List.mem_append_left _ member)
      have others := ih fun child member => same child (List.mem_append_right _ member)
      simp only [fillPieces, first, others]

/-- The document of a template depends on how its own children are rendered, and no others. -/
theorem fill_congr {template : Template α}
    (same : ∀ child ∈ template.holes, ∀ deeper, render child deeper = render' child deeper) :
    template.fill render = template.fill render' := by
  rw [fill, fill, fillPieces_congr same]

end Template

/-- A kind has its own children rendered, and no other part of the definition. -/
theorem Kind.fill_congr (kind : Kind) (reading : Reading) {whole : Value}
    (definition : Members whole) {render render' : Part whole → Nat → Except RenderFault Doc}
    (same : ∀ child ∈ kind.children reading.dialect definition, ∀ deeper,
      render child deeper = render' child deeper) :
    (kind.rule reading definition >>= Template.fill render) =
      (kind.rule reading definition >>= Template.fill render') := by
  have ruled := kind.rule_yields reading definition
  unfold Yields at ruled
  split at ruled
  · rw [ruled]
    rfl
  · obtain ⟨template, outcome, holes⟩ := ruled
    rw [outcome]
    exact Template.fill_congr (holes ▸ same)

/-! ## What rendering asks of a registry -/

namespace Dialect

/-- A schema of a tag, as a dialect reads it. -/
structure HasTag (dialect : Dialect) (tag : Tag) (node : Value) : Prop where
  recognized : dialect.recognizes node = true
  tagged : (dialect.tag? node).map Tag.ofName = some tag

/-- No schema of a tag can be reached. -/
def LacksTag (dialect : Dialect) (tag : Tag) (node : Value) : Prop :=
  ∀ inner, node.Reaches inner → ¬dialect.HasTag tag inner

variable {dialect : Dialect} {node : Value}

theorem mem_visits_self : node ∈ dialect.visits node := by
  rw [visits]
  exact List.mem_cons_self

theorem mem_visits_of_child {child : Part node} (rendered : child ∈ dialect.childrenOf node)
    {inner : Value} (deeper : inner ∈ dialect.visits child.1) : inner ∈ dialect.visits node := by
  rw [visits]
  exact List.mem_cons_of_mem _ (List.mem_flatMap.mpr ⟨child, rendered, deeper⟩)

theorem HasTag.childrenOf {kind : Kind} {tag : Tag} (own : dialect.HasTag tag node)
    (known : tag.kind? = some kind) :
    dialect.childrenOf node = kind.children dialect (Renderer.definitionIn dialect node) := by
  obtain ⟨name, given, rfl⟩ := Option.map_eq_some_iff.mp own.tagged
  rw [Tag.kind?_ofName] at known
  rw [Dialect.childrenOf, kind?, if_pos own.recognized, given, Option.bind_some, known]

end Dialect

/-- Two registries serve the tags of some values alike. -/
def Registry.AgreeOn (registry registry' : Registry) (dialect : Dialect) (nodes : List Value) :
    Prop :=
  ∀ node ∈ nodes, ∀ tag, dialect.HasTag tag node → registry.get? tag = registry'.get? tag

namespace Renderer

variable {dialect : Dialect} {registry : Registry} {node : Value}

/-- Only the tags of the values that are visited are looked up. -/
theorem renderAt_eq_of_agreeOn (options : Options) (level : Nat)
    (agree : registry.AgreeOn .builtin dialect (dialect.visits node)) :
    renderAt ⟨dialect, registry⟩ options level node =
      (ofDialect dialect).renderAt options level node := by
  induction node using Part.induction generalizing level with
  | step node ih =>
    rw [renderAt, renderAt_ofDialect]
    dsimp only
    split
    · next recognized =>
      cases tagged : dialect.tag? node with
      | none => rfl
      | some name =>
        have own : dialect.HasTag (.ofName name) node :=
          ⟨recognized, congrArg (Option.map Tag.ofName) tagged⟩
        dsimp only
        rw [agree node Dialect.mem_visits_self _ own, Registry.get?_builtin, Tag.kind?_ofName]
        cases known : Kind.ofTag? name with
        | none => rfl
        | some kind =>
          refine (handler_bind_getD _ kind.rule _).trans (kind.fill_congr _ _ ?_)
          intro child (rendered : child ∈ kind.children dialect (definitionIn dialect node)) deeper
          rw [← own.childrenOf ((Tag.kind?_ofName name).trans known)] at rendered
          have below : registry.AgreeOn .builtin dialect (dialect.visits child.1) :=
            fun inner visited => agree inner (Dialect.mem_visits_of_child rendered visited)
          exact ih child _ below
    · rfl

/-- A handler makes no difference where nothing that is visited has its tag. -/
theorem render_register_of_visits {tag : Tag} (handler : Handler) (options : Options)
    (lacks : ∀ inner ∈ dialect.visits node, ¬dialect.HasTag tag inner) :
    ((ofDialect dialect).register tag handler).render options node =
      (ofDialect dialect).render options node := by
  have agree : (Registry.builtin.insert tag handler).AgreeOn .builtin dialect
      (dialect.visits node) := by
    intro inner visited other own
    rw [Registry.get?_insert, if_neg]
    rintro rfl
    exact lacks inner visited own
  have same := renderAt_eq_of_agreeOn options options.indentLevel agree
  exact congrArg (fun document => (do return (← document).print options options.indentLevel)) same

end Renderer

/-! ## Tags in a graph -/

namespace Value

mutual

/-- A test holds of a value and of all that lies in it, the answers of its functions included. -/
def throughout (test : Value → Bool) : Value → Bool
  | .array items => test (.array items) && itemsThroughout test items
  | .object fields => test (.object fields) && fieldsThroughout test fields
  | .function called recovering =>
    test (.function called recovering) && answerThroughout test called
  | value => test value

def itemsThroughout (test : Value → Bool) : List Value → Bool
  | [] => true
  | item :: rest => throughout test item && itemsThroughout test rest

def fieldsThroughout (test : Value → Bool) : List (String × Value) → Bool
  | [] => true
  | (_, value) :: rest => throughout test value && fieldsThroughout test rest

def answerThroughout (test : Value → Bool) : Outcome → Bool
  | .returns value => throughout test value
  | .throws _ => true

end

theorem test_of_throughout {test : Value → Bool} {value : Value}
    (holds : value.throughout test = true) : test value = true := by
  cases value <;> simp_all [throughout]

theorem throughout_of_reaches {test : Value → Bool} {value inner : Value}
    (holds : value.throughout test = true) (reached : value.Reaches inner) :
    inner.throughout test = true := by
  have item {items : List Value} (all : itemsThroughout test items = true) :
      ∀ item ∈ items, item.throughout test = true := by
    induction items with
    | nil => exact fun _ member => absurd member List.not_mem_nil
    | cons first rest ih =>
      rw [itemsThroughout, Bool.and_eq_true] at all
      exact List.forall_mem_cons.mpr ⟨all.1, ih all.2⟩
  have field {fields : Fields} (all : fieldsThroughout test fields = true) :
      ∀ field ∈ fields, field.2.throughout test = true := by
    induction fields with
    | nil => exact fun _ member => absurd member List.not_mem_nil
    | cons first rest ih =>
      rw [fieldsThroughout, Bool.and_eq_true] at all
      exact List.forall_mem_cons.mpr ⟨all.1, ih all.2⟩
  induction reached with
  | self => exact holds
  | element _ member ih =>
    rw [throughout, Bool.and_eq_true] at ih
    exact item ih.2 _ member
  | property _ member ih =>
    rw [throughout, Bool.and_eq_true] at ih
    exact field ih.2 _ member
  | answer _ member ih =>
    rw [throughout, Bool.and_eq_true] at ih
    have function := field ih.2 _ member
    rw [throughout, Bool.and_eq_true] at function
    exact function.2

end Value

/-- The absence of a tag shows by going through the values. -/
theorem Dialect.lacksTag_of_throughout {dialect : Dialect} {tag : Tag} {node : Value}
    (checked : node.throughout (fun inner =>
      !(dialect.recognizes inner && (dialect.tag? inner).map Tag.ofName == some tag)) = true) :
    dialect.LacksTag tag node := by
  intro inner reached own
  have clear := Value.test_of_throughout (Value.throughout_of_reaches checked reached)
  rw [own.recognized, own.tagged] at clear
  simp at clear

/-! ## Registrations -/

/-- **A registration is local to its tag.** Whatever a handler does and whatever tag it is
registered for, a value that reaches no schema of the tag is rendered as before, to the same text or
the same fault. In a module, what becomes of such a value and the text of its entry stay as they
were, whatever the registration does to other entries. -/
theorem Renderer.render_register (version : Version) (tag : Tag) (handler : Handler)
    (options : Options) :
    let plain := ofVersion version
    let extended := plain.register tag handler
    (∀ node, version.dialect.LacksTag tag node →
      extended.render options node = plain.render options node) ∧
    (∀ (settings : ModuleSettings) (name : String) (value : Value),
      version.dialect.LacksTag tag value →
        settings.dispose extended options name value = settings.dispose plain options name value) ∧
    ∀ values : Fields,
      let text (renderer : Renderer) := ModuleSettings.bare.entryText renderer options
      let code (renderer : Renderer) := (ModuleSettings.bare.build renderer options values).code
      code plain = Module.opening none ++ values.texts (text plain) ∧
      code extended = Module.opening none ++ values.texts (text extended) ∧
      ∀ name value, (name, value) ∈ values → version.dialect.LacksTag tag value →
        text extended name value = text plain name value := by
  intro plain extended
  have rendered (node : Value) (lacks : version.dialect.LacksTag tag node) :
      extended.render options node = plain.render options node :=
    render_register_of_visits handler options fun inner visited =>
      lacks inner (Dialect.reaches_of_mem_visits (Dialect.looksInside version) visited)
  have disposed (settings : ModuleSettings) (name : String) (value : Value)
      (lacks : version.dialect.LacksTag tag value) :
      settings.dispose extended options name value =
        settings.dispose plain options name value := by
    unfold ModuleSettings.dispose
    rw [rendered value lacks]
    rfl
  have code (renderer : Renderer) (values : Fields) :
      (ModuleSettings.bare.build renderer options values).code =
        Module.opening none ++ values.texts (ModuleSettings.bare.entryText renderer options) := by
    rw [ModuleSettings.code_build]
    exact String.append_empty
  refine ⟨rendered, disposed, fun values => ⟨code plain values, code extended values, ?_⟩⟩
  intro name value _ lacks
  exact congrArg (Module.entryText name) (disposed .bare name value lacks)

/-- An object that takes any other properties: the tag of the schema for those is only read. -/
def openRecord : Value :=
  kindNode "object"
    [("shape", .object [("name", kindNode "string" [])]), ("catchall", kindNode "unknown" [])]

/-- A handler for `never`, of which an object asks whether it is the schema for other properties. -/
theorem Renderer.render_register_never :
    let handler : Handler := fun _ _ => .ok (some (.text "z.custom()"))
    let extended := (ofVersion .v4).register (.ofName "never") handler
    let entry := ModuleSettings.bare.entryText extended {}
    Dialect.v4.LacksTag (.ofName "never") openRecord ∧
      extended.render {} openRecord =
        .ok "z.object(\x7b\n  name: z.string(),\n\x7d).passthrough()" ∧
      entry "Open" openRecord = ModuleSettings.bare.entryText (ofVersion .v4) {} "Open" openRecord ∧
      entry "Closed" (kindNode "never" []) = "\nexport const Closed = z.custom();\n" := by
  intro handler extended entry
  have lacks : Dialect.v4.LacksTag (.ofName "never") openRecord :=
    Dialect.lacksTag_of_throughout (by decide +kernel)
  obtain ⟨rendered, -, modules⟩ := render_register .v4 (.ofName "never") handler {}
  have values := (modules [("Open", openRecord), ("Closed", kindNode "never" [])]).2.2
  refine ⟨lacks, (rendered openRecord lacks).trans ?_,
    values "Open" openRecord List.mem_cons_self lacks, ?_⟩
  · decide +kernel
  · decide +kernel

end SchemaSource
