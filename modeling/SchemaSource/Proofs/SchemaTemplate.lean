import Mathlib.Data.List.Basic
import SchemaSource.Proofs.Views
/-!
The template of a schema, told without any value that holds it. Its holes are the children of the
schema, each with its place.
-/
namespace SchemaSource

open Rule

/-! ## Templates of schemas -/

/-- A child with its place among the children. -/
abbrev Child := Schema × Nat

def Child.encode (layouts : Layouts) (child : Child) : Value :=
  child.1.encode (layouts.below child.2)

/-- The properties of a shape as children. -/
def propertyChildren (shape : List (String × Schema)) : List (String × Child) :=
  (shape.zipIdx 1).map fun property => (property.1.1, (property.1.2, property.2))

/-- The argument of a call that sets a default. -/
def Primitive.text (value : Primitive) : String := Fallback.default.argument (some value.value)

namespace Schema

/-- The text of a schema with holes for its children. It fails at a bound that is no date. -/
def template (o : Optimizations) : Schema → Except RenderFault (Template Child)
  | .bare kind => .ok (.text ("z." ++ kind.tag ++ "()"))
  | .boolean coerce => .ok (.text (constructorText coerce "boolean"))
  | .string coerce checks =>
    .ok (.text (constructorText coerce "string" ++ String.join (checks.map StringCheck.text)))
  | .number coerce checks =>
    .ok (.text (constructorText coerce "number" ++ String.join
      ((numberCalls o.semanticMethods false (checks.map (RangeCheck.check .number))).map
        (·.text (numberBound o)))))
  | .bigint coerce checks =>
    .ok (.text (constructorText coerce "bigint" ++ String.join
      (((checks.map (RangeCheck.check .bigint)).filterMap (bigintCall? o.semanticMethods)).map
        (·.text (bigintBound o)))))
  | .date coerce checks =>
    (dateCalls (checks.map DateCheck.check)).map fun calls =>
      .text (constructorText coerce "date" ++ String.join calls)
  | .literal value => .ok (.text ("z.literal(" ++ literalText value ++ ")"))
  | .enumeration members =>
    .ok (.text ("z.enum([" ++ ", ".intercalate (members.map Text.quote) ++ "])"))
  | .modified modifier inner => .ok [.hole (inner, 0), .text ("." ++ modifier.tag ++ "()")]
  | .default value inner => .ok [.hole (inner, 0), .text (".default(" ++ value.text ++ ")")]
  | .recovery getter inner =>
    .ok [.hole (inner, 0),
      .text (".catch(" ++ Fallback.recovery.argument (some getter.value) ++ ")")]
  | .array bounds element =>
    .ok [.text "z.array(", .hole (element, 0),
      .text (")" ++ String.join (bounds.map (·.text lengthNames)).eraseDups)]
  | .set bounds element =>
    .ok [.text "z.set(", .hole (element, 0),
      .text (")" ++ String.join (bounds.map (·.text setSizeNames)).eraseDups)]
  | .object policy shape =>
    .ok [.text "z.object(", .block (propertyChildren shape), .text (")" ++ policy.text)]
  | .openObject shape catchall =>
    .ok [.text "z.object(", .block (propertyChildren shape), .text ")", .text ".catchall(",
      .hole (catchall, 0), .text ")"]
  | .record key value =>
    .ok [.text "z.record(", .hole (key, 0), .text ", ", .hole (value, 1), .text ")"]
  | .map key value =>
    .ok [.text "z.map(", .hole (key, 0), .text ", ", .hole (value, 1), .text ")"]
  | .tuple items => .ok (.text "z.tuple([" :: Template.list (items.zipIdx 1) ++ [.text "])"])
  | .openTuple items rest =>
    .ok (.text "z.tuple([" :: Template.list (items.zipIdx 1)
      ++ [.text "])", .text ".rest(", .hole (rest, 0), .text ")"])
  | .union options => .ok (unionOf (options.zipIdx 1))
  | .discriminatedUnion discriminator options =>
    .ok (discriminatedOf (some (.string discriminator)) (options.zipIdx 1))
  | .intersection left right =>
    .ok [.text "z.intersection(", .hole (left, 0), .text ", ", .hole (right, 1), .text ")"]
  | .promise inner => .ok [.text "z.promise(", .hole (inner, 0), .text ")"]
  | .lazy _ => .ok (.text "z.lazy(() => /* circular reference */)")
  | .transform _ inner =>
    .ok [.hole (inner, 0), .text (hiddenFunction "transform" "transform")]
  | .pipe input output =>
    .ok [.hole (input, 0), .text ".pipe(", .hole (output, 1), .text ")"]

end Schema

/-! ## Children -/

theorem Schema.encodeAll_eq (layouts : Layouts) (first : Nat) (items : List Schema) :
    encodeAll layouts first items = (items.zipIdx first).map (Child.encode layouts) := by
  induction items generalizing first with
  | nil => rfl
  | cons item rest ih =>
    rw [encodeAll, ih, List.zipIdx_cons]
    rfl

theorem Schema.encodeShape_eq (layouts : Layouts) (shape : List (String × Schema)) :
    encodeShape layouts 1 shape =
      (propertyChildren shape).map fun property => (property.1, property.2.encode layouts) := by
  have numbered (first : Nat) : encodeShape layouts first shape =
      (shape.zipIdx first).map fun property =>
        (property.1.1, Child.encode layouts (property.1.2, property.2)) := by
    induction shape generalizing first with
    | nil => rfl
    | cons property rest ih =>
      rw [encodeShape, ih, List.zipIdx_cons]
      rfl
  rw [numbered, propertyChildren, List.map_map]
  rfl

theorem fst_mem_of_mem_zipIdx {items : List Schema} {child : Child} {first : Nat}
    (member : child ∈ items.zipIdx first) : child.1 ∈ items := by
  rw [← List.zipIdx_map_fst first items]
  exact List.mem_map_of_mem member

theorem mem_of_mem_propertyChildren {shape : List (String × Schema)} {child : Child}
    (member : child ∈ (propertyChildren shape).map (·.2)) : child.1 ∈ shape.map (·.2) := by
  rw [propertyChildren, List.map_map, List.mem_map] at member
  obtain ⟨property, inside, rfl⟩ := member
  rw [← List.zipIdx_map_fst 1 shape, List.map_map]
  exact List.mem_map_of_mem inside

/-- A template asks only for children of its schema. -/
theorem Schema.holes_subset {o : Optimizations} {s : Schema} {template : Template Child}
    (written : s.template o = .ok template) : ∀ child ∈ template.holes, child.1 ∈ s.children := by
  intro child member
  cases s with
  | date coerce checks =>
    rw [Schema.template] at written
    cases calls : dateCalls (checks.map DateCheck.check) with
    | error fault => rw [calls] at written; cases written
    | ok texts => rw [calls] at written; cases written; cases member
  | object policy shape =>
    cases written
    exact mem_of_mem_propertyChildren (by simpa [Template.holes] using member)
  | openObject shape catchall =>
    cases written
    have either : child ∈ (propertyChildren shape).map (·.2) ∨ child = (catchall, 0) := by
      simpa [Template.holes] using member
    rcases either with inside | rfl
    · exact List.mem_cons_of_mem _ (mem_of_mem_propertyChildren inside)
    · exact List.mem_cons_self
  | tuple items =>
    cases written
    have inside : child ∈ items.zipIdx 1 := by simpa [Template.holes] using member
    exact fst_mem_of_mem_zipIdx inside
  | openTuple items rest =>
    cases written
    have either : child ∈ items.zipIdx 1 ∨ child = (rest, 0) := by
      simpa [Template.holes] using member
    rcases either with inside | rfl
    · exact List.mem_cons_of_mem _ (fst_mem_of_mem_zipIdx inside)
    · exact List.mem_cons_self
  | union options =>
    cases written
    have inside : child ∈ options.zipIdx 1 := by simpa [unionOf, Template.holes] using member
    exact fst_mem_of_mem_zipIdx inside
  | discriminatedUnion discriminator options =>
    cases written
    have inside : child ∈ options.zipIdx 1 := by
      simpa [discriminatedOf, Template.holes] using member
    exact fst_mem_of_mem_zipIdx inside
  | record key value | map key value | intersection left right | pipe input output =>
    cases written
    rcases List.mem_pair.mp member with rfl | rfl <;> simp [Schema.children]
  | modified _ inner | default _ inner | recovery _ inner | array _ inner | set _ inner
  | promise inner | transform _ inner =>
    cases written
    rw [List.mem_singleton.mp member]
    exact List.mem_singleton_self inner
  | _ => cases written; cases member

end SchemaSource
