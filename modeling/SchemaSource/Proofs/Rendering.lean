import SchemaSource.Renderer
/-!
Rendering with the rules of the built-in kinds, one schema at a time. A document is settled by the
optimizations alone: neither the level nor the layout is ever consulted.
-/
namespace SchemaSource

/-- Work in two steps answers where both do. -/
theorem bind_eq_ok_iff {ε α β : Type} {x : Except ε α} {f : α → Except ε β} {b : β} :
    (x >>= f) = .ok b ↔ ∃ a, x = .ok a ∧ f a = .ok b := by
  cases x with
  | error fault => simp [bind, Except.bind]
  | ok a => simp [bind, Except.bind]

/-- What holds of a value where it holds of its parts holds of every value. -/
@[elab_as_elim]
theorem Part.induction {motive : Value → Prop}
    (step : ∀ whole, (∀ part : Part whole, motive part.1) → motive whole) (value : Value) :
    motive value := by
  induction size : value.weight using Nat.strongRecOn generalizing value with
  | ind weight ih =>
    refine step value fun part => ?_
    exact ih part.1.weight (size ▸ part.2) part.1 rfl

def Tag.kind? : Tag → Option Kind
  | .builtin kind => some kind
  | .other _ => none

theorem Tag.kind?_ofName (name : String) : (ofName name).kind? = Kind.ofTag? name := by
  unfold ofName
  cases Kind.ofTag? name <;> rfl

theorem Registry.get?_builtin (tag : Tag) :
    builtin.get? tag = tag.kind?.map (·.rule.handler) := by
  cases tag with
  | builtin kind => cases kind <;> rfl
  | other name => rfl

theorem Kind.ofTag?_tag (kind : Kind) : Kind.ofTag? kind.tag = some kind := by
  cases kind <;> rfl

namespace Renderer

/-- The definition that a rule reads. -/
def definitionIn (dialect : Dialect) (node : Value) : Members node :=
  (dialect.definition? node).getD (.empty node)

theorem handler_bind_getD {node : Value} (scope : Scope node) (rule : Rule) (missing : Doc) :
    (do return (← rule.handler node scope).getD missing) =
      (do
        let template ← rule ⟨scope.dialect, scope.options.optimizations⟩ scope.definition
        template.fill fun part deeper => scope.render part (scope.level + deeper)) := by
  unfold Rule.handler
  cases rule ⟨scope.dialect, scope.options.optimizations⟩ scope.definition with
  | error fault => rfl
  | ok template =>
    simp only [bind, Except.bind]
    cases template.fill fun part deeper => scope.render part (scope.level + deeper) <;> rfl

/-- One step of rendering, with the built-in rules spelled out. -/
theorem renderAt_ofDialect (dialect : Dialect) (options : Options) (level : Nat) (node : Value) :
    (ofDialect dialect).renderAt options level node =
      if dialect.recognizes node then
        match dialect.tag? node with
        | none => .ok (.text unknownType)
        | some tag =>
          match Kind.ofTag? tag with
          | none => .ok (.text (unhandled tag))
          | some kind => do
            let template ← kind.rule ⟨dialect, options.optimizations⟩ (definitionIn dialect node)
            template.fill fun part deeper =>
              (ofDialect dialect).renderAt options (level + deeper) part.1
      else .ok (.text (notASchema node)) := by
  rw [renderAt]
  simp only [ofDialect, Registry.get?_builtin, Tag.kind?_ofName]
  split
  · cases dialect.tag? node with
    | none => rfl
    | some tag =>
      dsimp only
      cases Kind.ofTag? tag with
      | none => rfl
      | some kind => exact handler_bind_getD _ kind.rule _
  · rfl

/-- Layout is not consulted: options with the same optimizations give the same document, whatever
level each is asked for. -/
theorem renderAt_congr (dialect : Dialect) {o o' : Options}
    (same : o.optimizations = o'.optimizations)
    (level level' : Nat) (node : Value) :
    (ofDialect dialect).renderAt o level node = (ofDialect dialect).renderAt o' level' node := by
  induction node using Part.induction generalizing level level' with
  | step node ih =>
    rw [renderAt_ofDialect, renderAt_ofDialect, same]
    have parts : (fun (part : Part node) deeper =>
          (ofDialect dialect).renderAt o (level + deeper) part.1) =
        fun part deeper => (ofDialect dialect).renderAt o' (level' + deeper) part.1 := by
      funext part deeper
      exact ih part _ _
    rw [parts]

/-- A registry is asked for the handlers of names, and for nothing else. -/
theorem renderAt_eq_of_get? (dialect : Dialect) {registry registry' : Registry}
    (same : ∀ name, registry.get? (.ofName name) = registry'.get? (.ofName name))
    (options : Options) (level : Nat) (node : Value) :
    renderAt ⟨dialect, registry⟩ options level node =
      renderAt ⟨dialect, registry'⟩ options level node := by
  induction node using Part.induction generalizing level with
  | step node ih =>
    have parts : (fun (part : Part node) level =>
          renderAt ⟨dialect, registry⟩ options level part.1) =
        fun part level => renderAt ⟨dialect, registry'⟩ options level part.1 := by
      funext part level
      exact ih part level
    rw [renderAt, renderAt, parts]
    simp only [same]

theorem render_eq_of_get? (dialect : Dialect) {registry registry' : Registry}
    (same : ∀ name, registry.get? (.ofName name) = registry'.get? (.ofName name))
    (options : Options) (node : Value) :
    render ⟨dialect, registry⟩ options node = render ⟨dialect, registry'⟩ options node :=
  congrArg (fun document => (do return (← document).print options options.indentLevel))
    (renderAt_eq_of_get? dialect same options options.indentLevel node)

end Renderer
end SchemaSource
