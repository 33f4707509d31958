import SchemaSource.Module
/-!
Renderers kept by name. A step concerns the renderer of one name; a copy shares nothing with its
source from then on.
-/
namespace SchemaSource

structure Session where
  renderers : List (String × Renderer)

namespace Session

def empty : Session := ⟨[]⟩

def get? (session : Session) (name : String) : Option Renderer :=
  (session.renderers.find? (·.1 == name)).map (·.2)

def contains (session : Session) (name : String) : Bool := (session.get? name).isSome

def set (session : Session) (name : String) (renderer : Renderer) : Session :=
  ⟨(name, renderer) :: session.renderers.filter (·.1 != name)⟩

inductive Query where
  | render (options : Options) (value : Value)
  | build (settings : ModuleSettings) (options : Options) (values : Fields)
  | serves (tag : Tag)
  | describe

inductive Action where
  /-- A new renderer with the rules of all kinds. -/
  | create (dialect : Dialect)
  /-- A copy of the renderer of another name. -/
  | copy (source : String)
  | register (tag : Tag) (handler : Handler)
  | ask (query : Query)

structure Step where
  name : String
  action : Action

inductive Answer where
  /-- How many tags the renderer now serves. -/
  | size (tags : Nat)
  | done
  | rendered (result : Except RenderFault String)
  | built (result : Module)
  | serves (answer : Bool)
  | described (version : Version) (tags : Nat) (text : String)
  /-- No renderer has this name. -/
  | unknown (name : String)

def Query.answer (renderer : Renderer) : Query → Answer
  | .render options value => .rendered (renderer.render options value)
  | .build settings options values => .built (settings.build renderer options values)
  | .serves tag => .serves (renderer.registry.contains tag)
  | .describe => .described renderer.dialect.version renderer.registry.size renderer.describe

def step (session : Session) : Step → Session × Answer
  | ⟨name, .create dialect⟩ =>
    let renderer := Renderer.ofDialect dialect
    (session.set name renderer, .size renderer.registry.size)
  | ⟨name, .copy source⟩ =>
    match session.get? source with
    | some renderer => (session.set name renderer, .done)
    | none => (session, .unknown source)
  | ⟨name, .register tag handler⟩ =>
    match session.get? name with
    | some renderer =>
      let renderer := renderer.register tag handler
      (session.set name renderer, .size renderer.registry.size)
    | none => (session, .unknown name)
  | ⟨name, .ask query⟩ =>
    match session.get? name with
    | some renderer => (session, query.answer renderer)
    | none => (session, .unknown name)

def run (session : Session) : List Step → List Answer
  | [] => []
  | next :: rest =>
    let (session, answer) := session.step next
    answer :: run session rest

end Session
end SchemaSource
