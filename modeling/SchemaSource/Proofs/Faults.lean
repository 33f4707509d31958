import SchemaSource.Proofs.Schema
import SchemaSource.Proofs.Visits
/-!
When rendering fails. The values that are visited decide: the first of them with a fault of its own
is the answer, and without one there is a text. A fault is a shape that throws or a date with a
bound that is no date; whatever else is wrong with a value ends up in its text.
-/
namespace SchemaSource

/-- The fault of an answer. -/
def faultIn {ε α : Type} : Except ε α → Option ε
  | .error fault => some fault
  | .ok _ => none

section Answers

variable {ε α β : Type}

theorem faultIn_bind {x : Except ε α} {f : α → Except ε β} {later : Option ε}
    (same : ∀ a, faultIn (f a) = later) : faultIn (x >>= f) = (faultIn x).or later := by
  cases x with
  | error fault => rfl
  | ok a => exact same a

theorem faultIn_map (f : α → β) (x : Except ε α) : faultIn (do return f (← x)) = faultIn x := by
  cases x <;> rfl

theorem eq_error_iff {x : Except ε α} {fault : ε} : x = .error fault ↔ faultIn x = some fault := by
  cases x <;> simp [faultIn]

/-- The first answer from lists in a row. -/
theorem findSome?_flatMap (f : β → Option ε) (g : α → List β) (l : List α) :
    (l.flatMap g).findSome? f = l.findSome? fun a => (g a).findSome? f := by
  induction l with
  | nil => rfl
  | cons a rest ih =>
    rw [List.flatMap_cons, List.findSome?_append, List.findSome?_cons, ih]
    cases (g a).findSome? f <;> rfl

end Answers

/-! ## Templates -/

namespace Template

variable {α ε : Type} {render : α → Nat → Except ε Doc} {fault? : α → Option ε}

theorem faultIn_fillEntries (each : ∀ child deeper, faultIn (render child deeper) = fault? child)
    (entries : List (String × α)) :
    faultIn (fillEntries render entries) = (entries.map (·.2)).findSome? fault? := by
  induction entries with
  | nil => rfl
  | cons entry rest ih =>
    obtain ⟨name, child⟩ := entry
    have later (doc : Doc) :
        faultIn (do return (name, doc) :: (← fillEntries render rest)) =
          (rest.map (·.2)).findSome? fault? :=
      (faultIn_map _ _).trans ih
    rw [fillEntries, faultIn_bind later, each, List.map_cons, List.findSome?_cons]
    cases fault? child <;> rfl

theorem faultIn_fillPieces (each : ∀ child deeper, faultIn (render child deeper) = fault? child)
    (template : Template α) :
    faultIn (fillPieces render template) = template.holes.findSome? fault? := by
  induction template with
  | nil => rfl
  | cons piece rest ih =>
    have later (doc : Doc) :
        faultIn (do return doc :: (← fillPieces render rest)) = (holes rest).findSome? fault? :=
      (faultIn_map _ _).trans ih
    cases piece with
    | text content => exact later (.text content)
    | hole child =>
      rw [fillPieces, faultIn_bind later, each, holes, List.findSome?_cons]
      cases fault? child <;> rfl
    | block entries =>
      rw [fillPieces, faultIn_bind fun docs => later (.block docs), faultIn_fillEntries each, holes,
        List.findSome?_append]

/-- The work on a template ends at the first child with a fault. -/
theorem faultIn_fill (each : ∀ child deeper, faultIn (render child deeper) = fault? child)
    (template : Template α) :
    faultIn (template.fill render) = template.holes.findSome? fault? :=
  (faultIn_map _ _).trans (faultIn_fillPieces each template)

end Template

/-! ## Schemas -/

namespace Dialect

open Renderer (definitionIn)

/-- The fault that a value has by itself. -/
def faultOf? (dialect : Dialect) (node : Value) : Option RenderFault :=
  (dialect.kind? node).bind fun kind => kind.fault? (definitionIn dialect node).fields

/-- An object schema whose shape throws. -/
structure ThrowsShape (dialect : Dialect) (message : String) (node : Value) : Prop where
  recognized : dialect.recognizes node = true
  tag : dialect.tag? node = some "object"
  thrown : (definitionIn dialect node).fields.shapeMessage? = some message

/-- A date schema with a bound that is missing or names no date. -/
structure HasBadDate (dialect : Dialect) (node : Value) : Prop where
  recognized : dialect.recognizes node = true
  tag : dialect.tag? node = some "date"
  bad : ∃ check ∈ (definitionIn dialect node).fields.checks,
    (check.kind = "min" ∨ check.kind = "max") ∧ namesDate check.resolved = false

variable {dialect : Dialect} {node : Value}

theorem of_kind? {kind : Kind} (known : dialect.kind? node = some kind) :
    dialect.recognizes node = true ∧ dialect.tag? node = some kind.tag := by
  unfold kind? at known
  split at known
  · next recognized =>
    obtain ⟨tag, tagged, known⟩ := Option.bind_eq_some_iff.mp known
    have same : kind.tag = tag := by simpa using List.find?_some known
    exact ⟨recognized, same ▸ tagged⟩
  · cases known

/-- A value's own fault is one of two. -/
theorem fault_cases {fault : RenderFault} (own : dialect.faultOf? node = some fault) :
    (∃ message, fault = .callback "shape" message ∧ dialect.ThrowsShape message node) ∨
      (∃ text, fault = .invalidDate text ∧ dialect.HasBadDate node) := by
  obtain ⟨kind, known, own⟩ := Option.bind_eq_some_iff.mp own
  obtain ⟨recognized, tagged⟩ := of_kind? known
  unfold Kind.fault? at own
  split at own
  · obtain ⟨message, thrown, rfl⟩ := Option.map_eq_some_iff.mp own
    exact .inl ⟨message, rfl, recognized, tagged, thrown⟩
  · obtain ⟨check, first, rfl⟩ := Option.map_eq_some_iff.mp own
    have member := List.mem_of_find?_eq_some first
    have bad : (check.kind = "min" ∨ check.kind = "max") ∧ namesDate check.resolved = false := by
      simpa [Check.isBadDate] using List.find?_some first
    exact .inr ⟨_, rfl, recognized, tagged, check, member, bad⟩
  · cases own

end Dialect

/-! ## Rendering -/

namespace Renderer

variable {dialect : Dialect} (options : Options) (level : Nat) {node : Value}

theorem renderAt_of_kind {kind : Kind} (known : dialect.kind? node = some kind) :
    (ofDialect dialect).renderAt options level node = (do
      let template ← kind.rule ⟨dialect, options.optimizations⟩ (definitionIn dialect node)
      template.fill fun part deeper =>
        (ofDialect dialect).renderAt options (level + deeper) part.1) := by
  obtain ⟨recognized, tagged⟩ := Dialect.of_kind? known
  rw [renderAt_ofDialect, if_pos recognized, tagged]
  dsimp only
  rw [Kind.ofTag?_tag]

theorem renderAt_of_no_kind (unknown : dialect.kind? node = none) :
    ∃ doc, (ofDialect dialect).renderAt options level node = .ok doc := by
  rw [renderAt_ofDialect]
  unfold Dialect.kind? at unknown
  split at unknown
  · next recognized =>
    rw [if_pos recognized]
    cases tagged : dialect.tag? node with
    | none => exact ⟨_, rfl⟩
    | some tag =>
      rw [tagged, Option.bind_some] at unknown
      exact ⟨.text (unhandled tag), by simp only [unknown]⟩
  · next stranger =>
    exact ⟨_, if_neg stranger⟩

/-- The answer has the first fault among the values that are visited. -/
theorem faultIn_renderAt (node : Value) :
    faultIn ((ofDialect dialect).renderAt options level node) =
      (dialect.visits node).findSome? dialect.faultOf? := by
  induction node using Part.induction generalizing level with
  | step node ih =>
    rw [Dialect.visits, List.findSome?_cons]
    unfold Dialect.faultOf? Dialect.childrenOf
    cases known : dialect.kind? node with
    | none =>
      obtain ⟨doc, answer⟩ := renderAt_of_no_kind options level known
      rw [answer]
      rfl
    | some kind =>
      have ruled := kind.rule_yields ⟨dialect, options.optimizations⟩ (definitionIn dialect node)
      rw [renderAt_of_kind options level known, Option.bind_some]
      cases own : kind.fault? (definitionIn dialect node).fields with
      | some fault =>
        rw [own] at ruled
        rw [show kind.rule _ _ = _ from ruled]
        rfl
      | none =>
        rw [own] at ruled
        obtain ⟨template, answer, holes⟩ := ruled
        have each (child : Part node) (deeper : Nat) :
            faultIn ((ofDialect dialect).renderAt options (level + deeper) child.1) =
              (dialect.visits child.1).findSome? dialect.faultOf? :=
          ih child _
        rw [answer]
        refine (Template.faultIn_fill each template).trans ?_
        rw [holes, findSome?_flatMap]
        rfl

theorem faultIn_render (version : Version) (options : Options) (node : Value) :
    faultIn ((ofVersion version).render options node) =
      (version.dialect.visits node).findSome? version.dialect.faultOf? :=
  (faultIn_map _ _).trans (faultIn_renderAt options options.indentLevel node)

/-- A value with a fault in its answer reaches one with that fault of its own. -/
theorem exists_fault_of_render {version : Version} {options : Options} {node : Value}
    {fault : RenderFault} (failed : (ofVersion version).render options node = .error fault) :
    ∃ inner, node.Reaches inner ∧ version.dialect.faultOf? inner = some fault := by
  have first := eq_error_iff.mp failed
  rw [faultIn_render] at first
  obtain ⟨inner, member, own⟩ := List.exists_of_findSome?_eq_some first
  exact ⟨inner, Dialect.reaches_of_mem_visits (Dialect.looksInside version) member, own⟩

/-- **Rendering fails exactly for unreadable structure.** A handler never gives up. A callback that
failed is the shape of an object schema in the graph, with the message that it throws; an invalid
date is a bound of a date schema in the graph. Without such schemas there is a text, whatever else
the graph holds; and with several faults the answer is the first in the order of the visits. -/
theorem render_faults (version : Version) (options : Options) (node : Value) :
    let result := (ofVersion version).render options node
    let dialect := version.dialect
    (∀ tag message, result ≠ .error (.handler tag message)) ∧
    (∀ field message, result = .error (.callback field message) →
      field = "shape" ∧ ∃ inner, node.Reaches inner ∧ dialect.ThrowsShape message inner) ∧
    (∀ text, result = .error (.invalidDate text) →
      ∃ inner, node.Reaches inner ∧ dialect.HasBadDate inner) ∧
    ((∀ inner, node.Reaches inner →
        (∀ message, ¬dialect.ThrowsShape message inner) ∧ ¬dialect.HasBadDate inner) →
      ∃ text, result = .ok text) ∧
    faultIn result = (dialect.visits node).findSome? dialect.faultOf? := by
  refine ⟨?_, ?_, ?_, ?_, faultIn_render version options node⟩
  · intro tag message failed
    obtain ⟨inner, -, own⟩ := exists_fault_of_render failed
    rcases Dialect.fault_cases own with ⟨_, other, -⟩ | ⟨_, other, -⟩ <;> cases other
  · intro field message failed
    obtain ⟨inner, reached, own⟩ := exists_fault_of_render failed
    rcases Dialect.fault_cases own with ⟨thrown, same, throws⟩ | ⟨_, other, -⟩
    · cases same
      exact ⟨rfl, inner, reached, throws⟩
    · cases other
  · intro text failed
    obtain ⟨inner, reached, own⟩ := exists_fault_of_render failed
    rcases Dialect.fault_cases own with ⟨_, other, -⟩ | ⟨_, -, bad⟩
    · cases other
    · exact ⟨inner, reached, bad⟩
  · intro sound
    cases answer : (ofVersion version).render options node with
    | ok text => exact ⟨text, rfl⟩
    | error fault =>
      exfalso
      obtain ⟨inner, reached, own⟩ := exists_fault_of_render answer
      obtain ⟨quiet, dated⟩ := sound inner reached
      rcases Dialect.fault_cases own with ⟨message, -, throws⟩ | ⟨_, -, bad⟩
      · exact quiet message throws
      · exact dated bad

/-- An object whose properties are a date with a bad bound and an object whose shape throws. -/
def faultyProperties : Value :=
  kindNode "object"
    [("shape", .object
      [("since", kindNode "date"
        [("checks", .array [namedEntry "greater_than_or_equal" [("value", .string "soon")]])]),
       ("inner", kindNode "object" [("shape", .constantFunction (.throws "no shape"))])])]

/-- Nothing can be reached from a function. -/
theorem eq_of_reaches_function {called recovering : Outcome} {inner : Value}
    (reached : (Value.function called recovering).Reaches inner) :
    inner = .function called recovering := by
  induction reached with
  | self => rfl
  | element _ _ same | property _ _ same | answer _ _ same => cases same

theorem render_faults_of_each_kind :
    let silent : Value := kindNode "object" [("shape", .constantFunction (.throws "no shape"))]
    let callback : Value := .constantFunction (.throws "not called")
    (∃ inner, silent.Reaches inner ∧ Dialect.v4.ThrowsShape "no shape" inner) ∧
    (∃ inner, faultyProperties.Reaches inner ∧ Dialect.v4.HasBadDate inner) ∧
    ∃ text, (ofVersion .v4).render {} callback = .ok text := by
  intro silent callback
  have stranger : Dialect.v4.recognizes callback ≠ true := by decide
  have quiet (inner : Value) (reached : callback.Reaches inner) :
      (∀ message, ¬Dialect.v4.ThrowsShape message inner) ∧ ¬Dialect.v4.HasBadDate inner := by
    rw [eq_of_reaches_function reached]
    exact ⟨fun _ throws => stranger throws.recognized, fun bad => stranger bad.recognized⟩
  have thrown : (ofVersion .v4).render {} silent = .error (.callback "shape" "no shape") :=
    eq_error_iff.mpr (by decide +kernel)
  have dated : (ofVersion .v4).render {} faultyProperties = .error (.invalidDate "soon") :=
    eq_error_iff.mpr (by decide +kernel)
  exact ⟨((render_faults .v4 {} silent).2.1 _ _ thrown).2,
    (render_faults .v4 {} faultyProperties).2.2.1 _ dated,
    (render_faults .v4 {} callback).2.2.2.1 quiet⟩

end Renderer
end SchemaSource
