import SchemaSource.Proofs.Rendering
/-!
The text of a schema from the texts of its children. A rule leaves values in the holes of a
template; printing the template around the texts of those values gives the text of the schema.
-/
namespace SchemaSource

/-- A piece with other children in its holes. -/
def Piece.map {α β : Type} (f : α → β) : Piece α → Piece β
  | .text s => .text s
  | .hole child => .hole (f child)
  | .block entries => .block (entries.map fun entry => (entry.1, f entry.2))

namespace Template

variable {α β ε : Type}

/-- A template with other children in its holes. -/
def map (f : α → β) (template : Template α) : Template β := List.map (Piece.map f) template

@[simp]
theorem map_nil (f : α → β) : map f [] = [] := rfl

@[simp]
theorem map_cons (f : α → β) (piece : Piece α) (rest : Template α) :
    map f (piece :: rest) = piece.map f :: map f rest := rfl

@[simp]
theorem map_append (f : α → β) (first second : Template α) :
    map f (first ++ second) = map f first ++ map f second := List.map_append

@[simp]
theorem map_list (f : α → β) (children : List α) :
    map f (list children) = list (children.map f) := by
  induction children with
  | nil => rfl
  | cons child rest ih =>
    cases rest with
    | nil => rfl
    | cons next rest =>
      simp only [list, map_cons, List.map_cons] at ih ⊢
      rw [ih]
      rfl

/-- The properties of a block, one level deeper. -/
def printEntries (level : Nat) (render : α → Nat → Except ε String) :
    List (String × α) → Except ε (List String)
  | [] => .ok []
  | (name, child) :: rest => do
    let text ← render child (level + 1)
    let texts ← printEntries level render rest
    return (propertyName name ++ ": " ++ text) :: texts

/-- The text of a template whose children are rendered at a level. -/
def print (options : Options) (level : Nat) (render : α → Nat → Except ε String) :
    Template α → Except ε String
  | [] => .ok ""
  | .text content :: rest => do
    let after ← print options level render rest
    return content ++ after
  | .hole child :: rest => do
    let text ← render child level
    let after ← print options level render rest
    return text ++ after
  | .block entries :: rest => do
    let texts ← printEntries level render entries
    let after ← print options level render rest
    return Doc.braces options level texts ++ after

theorem printEntries_map (level : Nat) (f : α → β) (render : β → Nat → Except ε String)
    (entries : List (String × α)) :
    printEntries level render (entries.map fun entry => (entry.1, f entry.2)) =
      printEntries level (fun child => render (f child)) entries := by
  induction entries with
  | nil => rfl
  | cons entry rest ih => simp only [List.map_cons, printEntries, ih]

theorem print_map (options : Options) (level : Nat) (f : α → β)
    (render : β → Nat → Except ε String) (template : Template α) :
    print options level render (map f template) =
      print options level (fun child => render (f child)) template := by
  induction template with
  | nil => rfl
  | cons piece rest ih =>
    cases piece with
    | text content => simp only [map_cons, Piece.map, print, ih]
    | hole child => simp only [map_cons, Piece.map, print, ih]
    | block entries => simp only [map_cons, Piece.map, print, printEntries_map, ih]

/-- The children in the holes of a template, in order. -/
def holes : Template α → List α
  | [] => []
  | .text _ :: rest => holes rest
  | .hole child :: rest => child :: holes rest
  | .block entries :: rest => entries.map (·.2) ++ holes rest

@[simp]
theorem holes_append (first second : Template α) :
    holes (first ++ second) = holes first ++ holes second := by
  induction first with
  | nil => rfl
  | cons piece rest ih =>
    cases piece with
    | text content => exact ih
    | hole child => exact congrArg (child :: ·) ih
    | block entries => simp only [List.cons_append, holes, ih, List.append_assoc]

@[simp]
theorem holes_list (children : List α) : holes (list children) = children := by
  induction children with
  | nil => rfl
  | cons child rest ih =>
    cases rest with
    | nil => rfl
    | cons next rest => exact congrArg (child :: ·) ih

theorem printEntries_congr {level : Nat} {render render' : α → Nat → Except ε String}
    {entries : List (String × α)}
    (same : ∀ entry ∈ entries, ∀ l, render entry.2 l = render' entry.2 l) :
    printEntries level render entries = printEntries level render' entries := by
  induction entries with
  | nil => rfl
  | cons entry rest ih =>
    have head := same entry (List.mem_cons_self)
    have tail := ih fun other member => same other (List.mem_cons_of_mem _ member)
    simp only [printEntries, head, tail]

/-- Only what is in its holes matters to a template. -/
theorem print_congr {options : Options} {level : Nat} {render render' : α → Nat → Except ε String}
    {template : Template α}
    (same : ∀ child ∈ template.holes, ∀ l, render child l = render' child l) :
    print options level render template = print options level render' template := by
  induction template with
  | nil => rfl
  | cons piece rest ih =>
    cases piece with
    | text content => simp only [print, ih same]
    | hole child =>
      have head := same child (List.mem_cons_self)
      have tail := ih fun other member => same other (List.mem_cons_of_mem _ member)
      simp only [print, head, tail]
    | block entries =>
      have head : printEntries level render entries = printEntries level render' entries :=
        printEntries_congr fun entry member =>
          same entry.2 (List.mem_append_left _ (List.mem_map_of_mem member))
      have tail := ih fun other member => same other (List.mem_append_right _ member)
      simp only [print, head, tail]

/-- The text of a template around the texts of its children. -/
def written (options : Options) (level : Nat) (text : α → Nat → String) : Template α → String
  | [] => ""
  | .text content :: rest => content ++ written options level text rest
  | .hole child :: rest => text child level ++ written options level text rest
  | .block entries :: rest =>
    Doc.braces options level
        (entries.map fun entry => propertyName entry.1 ++ ": " ++ text entry.2 (level + 1))
      ++ written options level text rest

theorem written_append (options : Options) (level : Nat) (text : α → Nat → String)
    (first second : Template α) :
    written options level text (first ++ second) =
      written options level text first ++ written options level text second := by
  induction first with
  | nil => exact String.empty_append.symm
  | cons piece rest ih =>
    cases piece <;> simp only [List.cons_append, written, ih, String.append_assoc]

theorem printEntries_ok (level : Nat) (text : α → Nat → String) (entries : List (String × α)) :
    printEntries level (fun child l => (.ok (text child l) : Except ε String)) entries =
      .ok (entries.map fun entry => propertyName entry.1 ++ ": " ++ text entry.2 (level + 1)) := by
  induction entries with
  | nil => rfl
  | cons entry rest ih =>
    rw [printEntries, ih]
    rfl

/-- A template whose children all have a text has one itself. -/
theorem print_eq_written {options : Options} {level : Nat} {render : α → Nat → Except ε String}
    {text : α → Nat → String} {template : Template α}
    (each : ∀ child ∈ template.holes, ∀ l, render child l = .ok (text child l)) :
    print options level render template = .ok (written options level text template) := by
  have total (template : Template α) :
      print options level (fun child l => (.ok (text child l) : Except ε String)) template =
        .ok (written options level text template) := by
    induction template with
    | nil => rfl
    | cons piece rest ih =>
      cases piece with
      | text content => rw [print, ih]; rfl
      | hole child => rw [print, ih]; rfl
      | block entries => rw [print, printEntries_ok, ih]; rfl
  rw [← total, print_congr each]

section Filling

variable {options : Options} {level : Nat} {fill : α → Nat → Except ε Doc}
  {render : α → Nat → Except ε String}

theorem fillEntries_print
    (printed : ∀ child deeper,
      (fill child deeper).map (Doc.print options (level + deeper)) = render child (level + deeper))
    (entries : List (String × α)) :
    (fillEntries fill entries).map (Doc.printEntries options (level + 1)) =
      printEntries level render entries := by
  induction entries with
  | nil => rfl
  | cons entry rest ih =>
    obtain ⟨name, child⟩ := entry
    simp only [fillEntries, printEntries, ← ih, ← printed]
    cases fill child 1 with
    | error fault => rfl
    | ok doc => cases fillEntries fill rest <;> rfl

theorem fillPieces_print
    (printed : ∀ child deeper,
      (fill child deeper).map (Doc.print options (level + deeper)) = render child (level + deeper))
    (template : Template α) :
    (fillPieces fill template).map (fun docs => String.join (Doc.printAll options level docs)) =
      print options level render template := by
  induction template with
  | nil => rfl
  | cons piece rest ih =>
    cases piece with
    | text content =>
      simp only [fillPieces, print, ← ih]
      cases fillPieces fill rest with
      | error fault => rfl
      | ok docs => exact congrArg Except.ok (String.join_cons ..)
    | hole child =>
      have here : (fill child 0).map (Doc.print options level) = render child level :=
        printed child 0
      simp only [fillPieces, print, ← ih, ← here]
      cases fill child 0 with
      | error fault => rfl
      | ok doc =>
        cases fillPieces fill rest with
        | error fault => rfl
        | ok docs => exact congrArg Except.ok (String.join_cons ..)
    | block entries =>
      simp only [fillPieces, print, ← ih, ← fillEntries_print printed]
      cases fillEntries fill entries with
      | error fault => rfl
      | ok entryDocs =>
        cases fillPieces fill rest with
        | error fault => rfl
        | ok docs => exact congrArg Except.ok (String.join_cons ..)

/-- Filling a template and printing the document is printing the template. -/
theorem fill_print (options : Options) (level : Nat) (fill : α → Nat → Except ε Doc)
    (render : α → Nat → Except ε String)
    (printed : ∀ child deeper,
      (fill child deeper).map (Doc.print options (level + deeper)) = render child (level + deeper))
    (template : Template α) :
    (template.fill fill).map (Doc.print options level) = print options level render template := by
  rw [← fillPieces_print printed, Template.fill]
  cases fillPieces fill template <;> rfl

end Filling

end Template

/-- What a rule leaves of a definition, with the children as values in their own right. -/
def Rule.view (rule : Rule) (reading : Reading) {whole : Value} (definition : Members whole) :
    Except RenderFault (Template Value) :=
  (rule reading definition).map (Template.map (·.1))

namespace Renderer

/-- The text of a value at a level. -/
def textAt (dialect : Dialect) (options : Options) (level : Nat) (node : Value) :
    Except RenderFault String :=
  ((ofDialect dialect).renderAt options level node).map (Doc.print options level)

theorem render_eq_textAt (version : Version) (options : Options) (node : Value) :
    (ofVersion version).render options node =
      textAt version.dialect options options.indentLevel node := rfl

/-- The text of a schema with a rule is that of its template, around the texts of its children. -/
theorem textAt_of_kind {dialect : Dialect} {node : Value} {kind : Kind}
    (recognized : dialect.recognizes node = true) (tag : dialect.tag? node = some kind.tag)
    (options : Options) (level : Nat) :
    textAt dialect options level node =
      (kind.rule.view ⟨dialect, options.optimizations⟩ (definitionIn dialect node)) >>=
        Template.print options level fun child l => textAt dialect options l child := by
  rw [textAt, renderAt_ofDialect, recognized, if_pos rfl, tag]
  dsimp only
  rw [Kind.ofTag?_tag, Rule.view]
  dsimp only
  cases kind.rule ⟨dialect, options.optimizations⟩ (definitionIn dialect node) with
  | error fault => rfl
  | ok template =>
    have filled := Template.fill_print options level
      (fun (child : Part node) deeper =>
        (ofDialect dialect).renderAt options (level + deeper) child.1)
      (fun child l => textAt dialect options l child.1) (fun child deeper => rfl) template
    exact filled.trans (Template.print_map options level (·.1)
      (fun child l => textAt dialect options l child) template).symm

end Renderer
end SchemaSource
