import SchemaSource.Proofs.SnapshotForm
import SchemaSource.Proofs.Views
/-!
Property names of an object schema on their way through a snapshot. The shape of the schema is an
object whose names are the author's, so it is read as one unless its only name is that of a marker;
then every property is written once, in order, with the text that its schema has alone.
-/
namespace SchemaSource

namespace Snapshot

/-- An entry for a schema of strings, numbers or booleans: a JSON value that reads as one. -/
structure Leaf (version : Version) where
  json : Json
  value : Value
  kind : Kind
  decoded : decode json = .ok value
  knows : version.dialect.Knows kind value
  isLeaf : kind ∈ [Kind.string, .number, .boolean]

/-- The entry for an object schema whose shape has these members. A class keeps its shape behind a
function. -/
def objectEntry (version : Version) (members : List (String × Json)) : Json :=
  match version with
  | .v3 => .object [("_def", .object
      [("typeName", .string "ZodObject"), ("shape", marked .function (.object members))])]
  | .v4 => .object [("_zod", .object [("def", .object
      [("type", .string "object"), ("shape", .object members)])])]

end Snapshot

/-- An object schema without a word on properties that its shape does not name. -/
def objectNode (version : Version) (shape : Fields) : Value :=
  match version with
  | .v3 => classNode "Object" [("shape", .thunk (.object shape))]
  | .v4 => kindNode "object" [("shape", .object shape)]

/-! ## Leaves -/

namespace Rule

variable (reading : Reading) {whole : Value} (definition : Members whole)

theorem view_leaf {kind : Kind} (isLeaf : kind ∈ [Kind.string, .number, .boolean]) :
    ∃ content, kind.rule.view reading definition = .ok (.text content) := by
  simp only [List.mem_cons, List.not_mem_nil, or_false] at isLeaf
  rcases isLeaf with rfl | rfl | rfl <;> exact ⟨_, rfl⟩

end Rule

namespace Snapshot.Leaf

variable {version : Version} (leaf : Leaf version) (options : Options)

/-- The text of the schema by itself. -/
def text : String := ((Renderer.ofVersion version).render options leaf.value).toOption.getD ""

/-- A leaf has a text, and it is the same at every level. -/
theorem textAt_eq (level : Nat) :
    Renderer.textAt version.dialect options level leaf.value = .ok (leaf.text options) := by
  obtain ⟨content, view⟩ := Rule.view_leaf ⟨version.dialect, options.optimizations⟩
    (Renderer.definitionIn version.dialect leaf.value) leaf.isLeaf
  have written (level : Nat) :
      Renderer.textAt version.dialect options level leaf.value = .ok content := by
    rw [Renderer.textAt_of_kind leaf.knows.recognized leaf.knows.tag, view]
    exact congrArg Except.ok String.append_empty
  rw [text, Renderer.render_eq_textAt, written, written]
  rfl

end Snapshot.Leaf

/-! ## Objects -/

namespace Snapshot

variable {version : Version}

theorem decodeMembers_leaves (entries : List (String × Leaf version)) :
    decodeMembers (entries.map fun entry => (entry.1, entry.2.json)) =
      .ok (entries.map fun entry => (entry.1, entry.2.value)) := by
  induction entries with
  | nil => rfl
  | cons entry rest ih =>
    rw [List.map_cons, decodeMembers, entry.2.decoded, ih]
    rfl

/-- The entry of an object schema reads as that schema where its shape reads as an object. -/
theorem decode_objectEntry {members : List (String × Json)} {shape : Fields}
    (read : decode (.object members) = .ok (.object shape)) :
    decode (objectEntry version members) = .ok (objectNode version shape) := by
  have alone {name : String} (other : Marker.ofKey? name = none) {payload : Json} {value : Value}
      (inner : decode payload = .ok value) :
      decode (.object [(name, payload)]) = .ok (.object [(name, value)]) := by
    simp only [decode, other, inner]
    rfl
  cases version with
  | v3 =>
    have shape : decode (marked .function (.object members)) = .ok (.thunk (.object shape)) := by
      rw [decode_marked, read]
      rfl
    refine alone rfl ?_
    rw [decode_object rfl]
    simp only [decodeMembers, shape]
    rfl
  | v4 =>
    refine alone rfl (alone rfl ?_)
    rw [decode_object rfl]
    simp only [decodeMembers, read]
    rfl

end Snapshot

theorem objectNode_knows (version : Version) (shape : Fields) :
    version.dialect.Knows .object (objectNode version shape) := by
  cases version with
  | v3 => exact knows_classNode .v3 rfl rfl _
  | v4 => exact knows_kindNode .object _

theorem view_objectNode (version : Version) (optimizations : Optimizations) (shape : Fields) :
    Rule.object.view ⟨version.dialect, optimizations⟩
        (Renderer.definitionIn version.dialect (objectNode version shape)) =
      .ok [.text "z.object(", .block shape, .text ")"] := by
  have kept : Rule.decided ⟨version.dialect, optimizations⟩
      (Renderer.definitionIn version.dialect (objectNode version shape)) = (.strip, false) := by
    cases version <;> exact Rule.decided_of_nothing rfl rfl
  cases version with
  | v3 => exact Rule.view_object (.inr rfl) kept
  | v4 => exact Rule.view_object (.inl rfl) kept

/-- The text of an object schema whose properties each have a text. -/
theorem render_objectNode {version : Version} {options : Options} {shape : Fields}
    {text : Value → String}
    (each : ∀ field ∈ shape, ∀ level,
      Renderer.textAt version.dialect options level field.2 = .ok (text field.2)) :
    (Renderer.ofVersion version).render options (objectNode version shape) =
      .ok ("z.object(" ++ Doc.braces options options.indentLevel
        (shape.map fun field => propertyName field.1 ++ ": " ++ text field.2) ++ ")") := by
  have knows := objectNode_knows version shape
  rw [Renderer.render_eq_textAt, Renderer.textAt_of_kind knows.recognized knows.tag]
  change Rule.object.view _ _ >>= _ = _
  rw [view_objectNode]
  have children : ∀ child ∈ Template.holes [.text "z.object(", .block shape, .text ")"],
      ∀ level, Renderer.textAt version.dialect options level child = .ok (text child) := by
    intro child member
    obtain ⟨field, inside, rfl⟩ : ∃ field ∈ shape, field.2 = child := by
      simpa [Template.holes] using member
    exact each field inside
  refine (Template.print_eq_written children).trans ?_
  simp only [Template.written, String.append_empty, String.append_assoc]

namespace Snapshot

/-- The entry of an object schema is read, and the schema is written with each of its properties once,
in order, under its name and with the text that its schema has alone. -/
def KeepsProperties (version : Version) (options : Options)
    (entries : List (String × Leaf version)) : Prop :=
  ∃ value,
    decode (objectEntry version (entries.map fun entry => (entry.1, entry.2.json))) = .ok value ∧
    (∀ entry ∈ entries,
      (Renderer.ofVersion version).render options entry.2.value = .ok (entry.2.text options)) ∧
    (Renderer.ofVersion version).render options value =
      .ok ("z.object(" ++ Doc.braces options options.indentLevel
        (entries.map fun entry => propertyName entry.1 ++ ": " ++ entry.2.text options) ++ ")")

/-- **Names of properties survive a snapshot** unless the only one is that of a marker. -/
theorem keepsProperties {version : Version} (options : Options)
    {entries : List (String × Leaf version)}
    (names : Marker.isOnlyName (entries.map (·.1)) = false) :
    KeepsProperties version options entries := by
  have plain : Marker.isOnlyName
      ((entries.map fun entry => (entry.1, entry.2.json)).map (·.1)) = false := by
    rwa [List.map_map]
  have read : decode (.object (entries.map fun entry => (entry.1, entry.2.json))) =
      .ok (.object (entries.map fun entry => (entry.1, entry.2.value))) := by
    rw [decode_object plain, decodeMembers_leaves]
    rfl
  refine ⟨_, decode_objectEntry read, fun entry _ => entry.2.textAt_eq options _, ?_⟩
  let text (value : Value) : String :=
    ((Renderer.ofVersion version).render options value).toOption.getD ""
  have each : ∀ field ∈ entries.map (fun entry => (entry.1, entry.2.value)), ∀ level,
      Renderer.textAt version.dialect options level field.2 = .ok (text field.2) := by
    intro field member level
    obtain ⟨entry, -, rfl⟩ := List.mem_map.mp member
    exact entry.2.textAt_eq options level
  rw [render_objectNode each, List.map_map]
  rfl

/-- The entry of a schema of strings without constraints. -/
def Leaf.string : (version : Version) → Leaf version
  | .v3 =>
    { json := .object [("_def", .object [("typeName", .string "ZodString")])]
      value := classNode "String" []
      kind := .string
      decoded := rfl
      knows := knows_classNode .v3 rfl rfl []
      isLeaf := by decide }
  | .v4 =>
    { json := .object [("_zod", .object [("def", .object [("type", .string "string")])])]
      value := kindNode "string" []
      kind := .string
      decoded := rfl
      knows := knows_kindNode .string []
      isLeaf := by decide }

theorem keepsProperties_named_as_markers :
    let names := ["$undefined", "with-dash", "$function"]
    Marker.isOnlyName names = false ∧
      KeepsProperties .v3 {} (names.map fun name => (name, .string .v3)) ∧
      KeepsProperties .v4 .compact [("$ref", .string .v4)] := by
  intro names
  exact ⟨rfl, keepsProperties {} rfl, keepsProperties .compact rfl⟩

/-- A shape whose only name is that of a marker is read as what the marker stands for. -/
theorem not_keepsProperties_marker (version : Version) (marker : Marker) :
    ¬KeepsProperties version {} [(marker.key, .string version)] := by
  rintro ⟨value, read, -, written⟩
  have lost : (decode (objectEntry version [(marker.key, (Leaf.string version).json)])).toOption.bind
      (fun value => ((Renderer.ofVersion version).render {} value).toOption) ≠
        some ("z.object(" ++ Doc.braces {} 0
          [propertyName marker.key ++ ": " ++ (Leaf.string version).text {}] ++ ")") := by
    cases version <;> cases marker <;> decide +kernel
  refine lost ?_
  rw [show decode (objectEntry version [(marker.key, (Leaf.string version).json)]) = .ok value
    from read]
  exact congrArg Except.toOption written

theorem undefined_property_lost :
    let entries : List (String × Leaf .v4) := [("$undefined", .string .v4)]
    entries ≠ [] ∧ (entries.map (·.1)).Nodup ∧ ¬KeepsProperties .v4 {} entries :=
  ⟨List.cons_ne_nil _ _, by decide, not_keepsProperties_marker .v4 .undefined⟩

end Snapshot
end SchemaSource
