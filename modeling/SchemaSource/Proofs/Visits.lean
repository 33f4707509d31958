import SchemaSource.Proofs.Children
/-!
The values that rendering visits, in order, and the graph in which they lie. A visit goes from a
schema to the children that its kind renders; all of them can be reached through properties,
elements and the answers of shapes.
-/
namespace SchemaSource

/-! ## The graph of a value -/

/-- What can be reached from a value: properties, elements of arrays, and what the function in the
place of a shape answers. -/
inductive Value.Reaches (root : Value) : Value → Prop
  | self : root.Reaches root
  | element {items : List Value} {item : Value} (array : root.Reaches (.array items))
      (member : item ∈ items) : root.Reaches item
  | property {fields : Fields} {key : String} {value : Value}
      (object : root.Reaches (.object fields)) (member : (key, value) ∈ fields) :
      root.Reaches value
  | answer {fields : Fields} {value : Value} {recovering : Outcome}
      (object : root.Reaches (.object fields))
      (member : ("shape", .function (.returns value) recovering) ∈ fields) : root.Reaches value

theorem Value.Reaches.trans {first second third : Value} (h : first.Reaches second)
    (h' : second.Reaches third) : first.Reaches third := by
  induction h' with
  | self => exact h
  | element _ member ih => exact ih.element member
  | property _ member ih => exact ih.property member
  | answer _ member ih => exact ih.answer member

/-- Named values that belong to an object of the graph, or none at all. -/
def Members.Reached {whole : Value} (members : Members whole) : Prop :=
  members.fields = [] ∨ whole.Reaches (.object members.fields)

/-- A dialect finds definitions within the value that they define. -/
def Dialect.LooksInside (dialect : Dialect) : Prop :=
  ∀ node definition, dialect.definition? node = some definition →
    node.Reaches (.object definition.fields)

/-- One of two alternatives was taken. -/
theorem eq_some_of_orElse {α : Type} {first second : Option α} {a : α}
    (h : (first <|> second) = some a) : first = some a ∨ second = some a := by
  cases first with
  | none => exact .inr h
  | some b => exact .inl h

namespace Members

variable {whole : Value} {members : Members whole} {key : String}

theorem fields_get?_of_get? {part : Part whole} (found : members.get? key = some part) :
    members.fields.get? key = some part.1 := by
  rw [← members.get?_map_val key, found]
  rfl

theorem Reached.object (reached : members.Reached) {value : Value}
    (found : members.fields.get? key = some value) :
    whole.Reaches (.object members.fields) := by
  cases reached with
  | inl none =>
    rw [none] at found
    cases found
  | inr object => exact object

theorem Reached.get? (reached : members.Reached) {part : Part whole}
    (found : members.get? key = some part) : whole.Reaches part.1 :=
  have field := fields_get?_of_get? found
  (reached.object field).property (Fields.mem_of_get? field)

theorem Reached.filter (reached : members.Reached) {part : Part whole} {p : Part whole → Bool}
    (found : (members.get? key).filter p = some part) : whole.Reaches part.1 :=
  reached.get? (Option.filter_eq_some_iff.mp found).1

theorem items_of_mem {part : Part whole} (member : part ∈ members.items key) :
    ∃ values, members.fields.get? key = some (.array values) ∧ part.1 ∈ values := by
  unfold Members.items at member
  cases found : members.get? key with
  | none => simp [found] at member
  | some array =>
    have field := fields_get?_of_get? found
    obtain ⟨value, lt⟩ := array
    rw [found, Option.bind_some] at member
    cases value with
    | array values =>
      obtain ⟨item, -, rfl⟩ := List.mem_map.mp member
      exact ⟨values, field, item.2⟩
    | _ => simp [Part.items?] at member

theorem Reached.items (reached : members.Reached) {part : Part whole}
    (member : part ∈ members.items key) : whole.Reaches part.1 := by
  obtain ⟨values, field, member⟩ := items_of_mem member
  have array := (reached.object field).property (Fields.mem_of_get? field)
  exact array.element member

theorem entries_reach {name : String} {part : Part whole}
    (object : whole.Reaches (.object members.fields)) (member : (name, part) ∈ members.entries) :
    whole.Reaches part.1 := by
  obtain ⟨field, -, same⟩ := List.mem_map.mp member
  cases same
  exact object.property field.2

end Members

/-! ## Definitions -/

namespace Dialect

theorem path?_reaches {value : Value} {keys : List String} {members : Members value}
    (found : path? value keys = some members) : value.Reaches (.object members.fields) := by
  have own {value : Value} {members : Members value} (found : value.members? = some members) :
      value.Reaches (.object members.fields) := by
    cases value with
    | object fields =>
      cases found
      exact .self
    | _ => cases found
  induction keys generalizing value with
  | nil => exact own found
  | cons key rest ih =>
    obtain ⟨outer, object, found⟩ := Option.bind_eq_some_iff.mp found
    obtain ⟨part, field, found⟩ := Option.bind_eq_some_iff.mp found
    obtain ⟨inner, deeper, same⟩ := Option.bind_eq_some_iff.mp found
    cases same
    exact (Members.Reached.get? (.inr (own object)) field).trans (ih deeper)

theorem looksInside (version : Version) : version.dialect.LooksInside := by
  intro node definition found
  cases version with
  | v3 => exact path?_reaches (Option.filter_eq_some_iff.mp found).1
  | v4 =>
    have current : (path? node ["_zod", "def"] <|> path? node ["def"] <|> path? node ["_def"]) =
        some definition := by
      simp only [Version.dialect, v4] at found
      split at found
      · exact found
      · cases found
    rcases eq_some_of_orElse current with zod | rest
    · exact path?_reaches zod
    · rcases eq_some_of_orElse rest with own | classic
      · exact path?_reaches own
      · exact path?_reaches classic

end Dialect

/-! ## Children -/

section Children

open Rule

variable {dialect : Dialect} {whole : Value} {definition : Members whole}

theorem tupleItems_reaches (inside : dialect.LooksInside) {tuple child : Part whole}
    (member : child ∈ tupleItems dialect tuple) : tuple.1.Reaches child.1 := by
  unfold tupleItems at member
  cases found : dialect.definition? tuple.1 with
  | none => simp [found] at member
  | some inner =>
    have object := inside _ _ found
    simp only [found] at member
    obtain ⟨items, array, member⟩ := Members.items_of_mem member
    exact (object.property (Fields.mem_of_get? array)).element member

theorem value_of_call {part answer : Part whole} (called : part.call = .ok answer) :
    answer.1 = part.1 ∨ ∃ recovering, part.1 = .function (.returns answer.1) recovering := by
  unfold Part.call at called
  split at called
  · next value recovering lt =>
    cases called
    exact .inr ⟨recovering, rfl⟩
  · cases called
  · cases called
    exact .inl rfl

theorem value_of_members? {part : Part whole} {members : Members whole}
    (found : part.members? = some members) : part.1 = .object members.fields := by
  unfold Part.members? at found
  split at found
  · cases found
    rfl
  · cases found

theorem shape_reaches (reached : definition.Reached) {shape : Members whole}
    (answered : shape? definition = .ok (some shape)) : whole.Reaches (.object shape.fields) := by
  unfold shape? at answered
  cases found : definition.get? "shape" with
  | none => simp [found, pure, Except.pure] at answered
  | some part =>
    have field := Members.fields_get?_of_get? found
    simp only [found] at answered
    cases called : part.call with
    | error message => simp [called] at answered
    | ok answer =>
      simp only [called, pure, Except.pure, Except.ok.injEq] at answered
      rw [← value_of_members? answered]
      rcases value_of_call called with own | ⟨recovering, function⟩
      · rw [own]
        exact reached.get? found
      · rw [function] at field
        exact (reached.object field).answer (Fields.mem_of_get? field)

theorem object_children_reach (reached : definition.Reached) {child : Part whole}
    (member : child ∈ Kind.object.children dialect definition) : whole.Reaches child.1 := by
  unfold Kind.children at member
  dsimp only at member
  split at member
  · next shape answered =>
    rcases List.mem_append.mp member with property | catchall
    · obtain ⟨⟨name, part⟩, entry, rfl⟩ := List.mem_map.mp property
      exact Members.entries_reach (shape_reaches reached answered) entry
    · have schema := (Option.filter_eq_some_iff.mp (Option.mem_toList.mp catchall)).1
      exact reached.filter schema
  · cases member

theorem function_children_reach (inside : dialect.LooksInside) (reached : definition.Reached)
    {child : Part whole} (member : child ∈ Kind.function.children dialect definition) :
    whole.Reaches child.1 := by
  rcases List.mem_append.mp member with argument | result
  · unfold functionArguments at argument
    cases found : schemaAt? dialect definition "args" with
    | none => simp [found] at argument
    | some tuple =>
      rw [found] at argument
      exact (reached.filter found).trans (tupleItems_reaches inside argument)
  · have schema := (Option.filter_eq_some_iff.mp (Option.mem_toList.mp result)).1
    exact reached.filter schema

theorem pipe_children_reach (reached : definition.Reached) {child : Part whole}
    (member : child ∈ Kind.pipe.children dialect definition) : whole.Reaches child.1 := by
  unfold Kind.children at member
  dsimp only at member
  split at member
  · next input found =>
    rcases List.mem_cons.mp member with rfl | output
    · rcases eq_some_of_orElse found with own | inner
      · exact reached.filter own
      · exact reached.filter inner
    · have schema := (Option.filter_eq_some_iff.mp (Option.mem_toList.mp output)).1
      exact reached.filter schema
  · cases member

/-- The children that a kind renders lie in the graph of the schema. -/
theorem Kind.children_reach (inside : dialect.LooksInside) (reached : definition.Reached)
    (kind : Kind) {child : Part whole} (member : child ∈ kind.children dialect definition) :
    whole.Reaches child.1 := by
  cases kind with
  | optional | nullable | nullish | default | recovery | readonly | effects | branded =>
    exact reached.filter (Option.mem_toList.mp member)
  | promise | array | set =>
    rcases eq_some_of_orElse (Option.mem_toList.mp member) with first | second
    · exact reached.filter first
    · exact reached.filter second
  | tuple =>
    rcases List.mem_append.mp member with item | rest
    · exact reached.items item
    · exact reached.filter (Option.mem_toList.mp rest)
  | record | map =>
    rcases List.mem_append.mp member with key | value
    · exact reached.filter (Option.mem_toList.mp key)
    · exact reached.filter (Option.mem_toList.mp value)
  | union | discriminatedUnion => exact reached.items member
  | intersection =>
    unfold Kind.children at member
    dsimp only at member
    split at member
    · next left right =>
      rcases List.mem_cons.mp member with rfl | last
      · exact reached.filter left
      · obtain rfl := List.mem_singleton.mp last
        exact reached.filter right
    · cases member
  | pipe => exact pipe_children_reach reached member
  | pipeline =>
    unfold Kind.children at member
    dsimp only at member
    split at member
    · next input found =>
      rcases List.mem_cons.mp member with rfl | output
      · exact reached.filter found
      · exact reached.filter (Option.mem_toList.mp output)
    · cases member
  | function => exact function_children_reach inside reached member
  | object => exact object_children_reach reached member
  | _ => cases member

end Children

/-! ## Visits -/

namespace Dialect

open Renderer (definitionIn)

/-- The kind of a value that is a schema of a known kind. -/
def kind? (dialect : Dialect) (node : Value) : Option Kind :=
  if dialect.recognizes node then (dialect.tag? node).bind Kind.ofTag? else none

/-- The children of a schema that are rendered, in order. -/
def childrenOf (dialect : Dialect) (node : Value) : List (Part node) :=
  match dialect.kind? node with
  | some kind => kind.children dialect (definitionIn dialect node)
  | none => []

/-- The values that are visited when a value is rendered, in order: the value itself, and then what
is visited for each of its children. -/
def visits (dialect : Dialect) (node : Value) : List Value :=
  node :: (dialect.childrenOf node).flatMap fun child => dialect.visits child.1
termination_by node.weight
decreasing_by exact child.2

theorem definitionIn_reached {dialect : Dialect} (inside : dialect.LooksInside) (node : Value) :
    (definitionIn dialect node).Reached := by
  unfold definitionIn
  cases found : dialect.definition? node with
  | none => exact .inl rfl
  | some definition => exact .inr (inside _ _ found)

/-- Nothing is visited that does not lie in the graph. -/
theorem reaches_of_mem_visits {dialect : Dialect} (inside : dialect.LooksInside)
    {node inner : Value} (member : inner ∈ dialect.visits node) : node.Reaches inner := by
  induction node using Part.induction with
  | step node ih =>
    rw [visits] at member
    rcases List.mem_cons.mp member with rfl | below
    · exact .self
    · obtain ⟨child, rendered, deeper⟩ := List.mem_flatMap.mp below
      have later := ih child deeper
      unfold childrenOf at rendered
      split at rendered
      · next kind _ =>
        exact (kind.children_reach inside (definitionIn_reached inside node) rendered).trans later
      · cases rendered

end Dialect
end SchemaSource
