import SchemaSource.Proofs.Rendering
/-!
Layout apart from content. A page is text in which the properties of object schemas are not laid
out; every schema has one page, or one fault, whatever the layout. On one line a page is its flat
text; in lines each property is indented by the number of objects around it.
-/
namespace SchemaSource

/-- Text around object schemas. -/
inductive Page where
  | text (content : String)
  | object (properties : List (String × Page))
  | concat (parts : List Page)

namespace Page

/-- A text a number of times. -/
def copies (count : Nat) (text : String) : String := String.join (List.replicate count text)

mutual

/-- The text on one line. -/
def flat : Page → String
  | .text s => s
  | .object properties =>
    if properties.isEmpty then "z.object(\x7b\x7d)"
    else "z.object(\x7b " ++ ", ".intercalate (flatProperties properties) ++ " \x7d)"
  | .concat parts => String.join (flatAll parts)

def flatAll : List Page → List String
  | [] => []
  | part :: rest => flat part :: flatAll rest

def flatProperties : List (String × Page) → List String
  | [] => []
  | (name, page) :: rest => (propertyName name ++ ": " ++ flat page) :: flatProperties rest

end

mutual

/-- The text in lines, of a page with `depth` objects around it. Every property has a line of its
own, one level further in than the object. -/
def laidOut (indent : String) (start depth : Nat) : Page → String
  | .text s => s
  | .object properties =>
    if properties.isEmpty then "z.object(\x7b\x7d)"
    else
      "z.object(\x7b"
        ++ String.join (lines indent start (depth + 1) properties)
        ++ "\n" ++ copies (start + depth) indent ++ "\x7d)"
  | .concat parts => String.join (laidOutAll indent start depth parts)

def laidOutAll (indent : String) (start depth : Nat) : List Page → List String
  | [] => []
  | part :: rest => laidOut indent start depth part :: laidOutAll indent start depth rest

/-- Each property after a line end and its margin. -/
def lines (indent : String) (start depth : Nat) : List (String × Page) → List String
  | [] => []
  | (name, page) :: rest =>
    ("\n" ++ copies (start + depth) indent ++ propertyName name ++ ": "
        ++ laidOut indent start depth page ++ ",")
      :: lines indent start depth rest

end

end Page

/-- A document prints as a page, flat or in lines. -/
structure Doc.PrintsAs (doc : Doc) (page : Page) : Prop where
  flat (options : Options) (level : Nat) (h : options.format = false) :
    doc.print options level = page.flat
  laidOut (options : Options) (start depth : Nat) (h : options.format = true) :
    doc.print options (start + depth) = page.laidOut options.indent start depth

/-- Documents in a row, printed without the braces or margins around them. -/
structure Doc.AllPrintAs (docs : List Doc) (pages : List Page) : Prop where
  flat (options : Options) (level : Nat) (h : options.format = false) :
    String.join (Doc.printAll options level docs) = String.join (Page.flatAll pages)
  laidOut (options : Options) (start depth : Nat) (h : options.format = true) :
    String.join (Doc.printAll options (start + depth) docs) =
      String.join (Page.laidOutAll options.indent start depth pages)

theorem Doc.AllPrintAs.concat {docs : List Doc} {pages : List Page}
    (h : Doc.AllPrintAs docs pages) : (Doc.concat docs).PrintsAs (.concat pages) := by
  constructor
  · intro options level hf
    rw [Doc.print, Page.flat]
    exact h.flat options level hf
  · intro options start depth hf
    rw [Doc.print, Page.laidOut]
    exact h.laidOut options start depth hf

theorem Doc.AllPrintAs.nil : Doc.AllPrintAs [] [] := by
  constructor <;> intros <;> rfl

theorem Doc.AllPrintAs.cons {doc : Doc} {page : Page} {docs : List Doc} {pages : List Page}
    (head : doc.PrintsAs page) (tail : Doc.AllPrintAs docs pages) :
    Doc.AllPrintAs (doc :: docs) (page :: pages) := by
  constructor
  · intro options level hf
    simp only [Doc.printAll, Page.flatAll, String.join_cons]
    rw [head.flat options level hf, tail.flat options level hf]
  · intro options start depth hf
    simp only [Doc.printAll, Page.laidOutAll, String.join_cons]
    rw [head.laidOut options start depth hf, tail.laidOut options start depth hf]

theorem Doc.PrintsAs.text (s : String) : (Doc.text s).PrintsAs (.text s) := by
  constructor <;> intros <;> simp [Doc.print, Page.flat, Page.laidOut]

/-! ## Blocks -/

/-- Named documents print as the properties of an object. -/
structure Doc.EntriesPrintAs (entries : List (String × Doc)) (properties : List (String × Page)) :
    Prop where
  empty : entries = [] ↔ properties = []
  flat (options : Options) (level : Nat) (h : options.format = false) :
    Doc.printEntries options level entries = Page.flatProperties properties
  laidOut (options : Options) (start depth : Nat) (h : options.format = true) :
    (Doc.printEntries options (start + depth) entries).map
        (fun entry => "\n" ++ Doc.indentation options (start + depth) ++ entry ++ ",") =
      Page.lines options.indent start depth properties

theorem Doc.EntriesPrintAs.nil : Doc.EntriesPrintAs [] [] := by
  constructor
  · simp
  · intros; rfl
  · intros; rfl

theorem Doc.EntriesPrintAs.cons {name : String} {doc : Doc} {page : Page}
    {entries : List (String × Doc)} {properties : List (String × Page)}
    (head : doc.PrintsAs page) (tail : Doc.EntriesPrintAs entries properties) :
    Doc.EntriesPrintAs ((name, doc) :: entries) ((name, page) :: properties) := by
  constructor
  · simp
  · intro options level hf
    simp only [Doc.printEntries, Page.flatProperties]
    rw [head.flat options level hf, tail.flat options level hf]
  · intro options start depth hf
    simp only [Doc.printEntries, Page.lines, List.map_cons]
    rw [head.laidOut options start depth hf, tail.laidOut options start depth hf]
    simp only [Doc.indentation, Page.copies, String.append_assoc]

/-- Lines joined by their ends are lines that each bring their own. -/
theorem line_ends (margin : String) (first : String) (rest : List String) :
    "\n" ++ ",\n".intercalate ((first :: rest).map (margin ++ ·)) ++ ",\n" =
      String.join ((first :: rest).map fun entry => "\n" ++ margin ++ entry ++ ",") ++ "\n" := by
  induction rest generalizing first with
  | nil => simp [String.append_assoc, String.intercalate_singleton]
  | cons second rest ih =>
    have later := ih second
    simp only [List.map_cons, String.join_cons, String.append_assoc] at later ⊢
    rw [String.intercalate_cons_cons]
    simp only [String.append_assoc]
    rw [← later]
    have comma : (",\n" : String) = "," ++ "\n" := rfl
    simp only [comma, String.append_assoc]

/-- Braces around properties in lines. -/
theorem braces_laidOut (options : Options) (level : Nat) (h : options.format = true)
    {entries : List String} (some : entries ≠ []) :
    Doc.braces options level entries =
      "\x7b" ++ String.join (entries.map fun entry =>
          "\n" ++ Doc.indentation options (level + 1) ++ entry ++ ",")
        ++ "\n" ++ Doc.indentation options level ++ "\x7d" := by
  cases entries with
  | nil => exact absurd rfl some
  | cons first rest =>
    have ends := line_ends (Doc.indentation options (level + 1)) first rest
    have opening : ("\x7b\n" : String) = "\x7b" ++ "\n" := rfl
    calc Doc.braces options level (first :: rest)
        = "\x7b" ++ ("\n" ++ ",\n".intercalate
              ((first :: rest).map (Doc.indentation options (level + 1) ++ ·)) ++ ",\n")
            ++ Doc.indentation options level ++ "\x7d" := by
          simp [Doc.braces, h, opening, String.append_assoc, -String.reduceAppend]
      _ = _ := by rw [ends]; simp only [String.append_assoc]

theorem braces_flat (options : Options) (level : Nat) (h : options.format = false)
    {entries : List String} (some : entries ≠ []) :
    Doc.braces options level entries = "\x7b " ++ ", ".intercalate entries ++ " \x7d" := by
  simp [Doc.braces, h, some]

theorem Doc.printEntries_eq_nil {options : Options} {level : Nat} {entries : List (String × Doc)} :
    Doc.printEntries options level entries = [] ↔ entries = [] := by
  cases entries <;> simp [Doc.printEntries]

/-- A block between the parentheses of an object schema is an object. -/
theorem Doc.EntriesPrintAs.object {entries : List (String × Doc)}
    {properties : List (String × Page)} (h : Doc.EntriesPrintAs entries properties)
    {closing : String} {docs : List Doc} {pages : List Page} (rest : Doc.AllPrintAs docs pages) :
    Doc.AllPrintAs (.text "z.object(" :: .block entries :: .text (")" ++ closing) :: docs)
      (.object properties :: .text closing :: pages) := by
  have opening : ("z.object(\x7b" : String) = "z.object(" ++ "\x7b" := rfl
  have openingFlat : ("z.object(\x7b " : String) = "z.object(" ++ "\x7b " := rfl
  have ending : ("\x7d)" : String) = "\x7d" ++ ")" := rfl
  have endingFlat : (" \x7d)" : String) = " \x7d" ++ ")" := rfl
  have empty : ("z.object(\x7b\x7d)" : String) = "z.object(" ++ "\x7b\x7d" ++ ")" := rfl
  constructor
  · intro options level hf
    simp only [Doc.printAll, Doc.print, Page.flatAll, Page.flat, String.join_cons,
      rest.flat options level hf]
    by_cases none : entries = []
    · simp [none, h.empty.mp none, Doc.printEntries, Doc.braces, empty, String.append_assoc,
        -String.reduceAppend]
    · rw [braces_flat _ _ hf (by simpa [Doc.printEntries_eq_nil] using none), h.flat options _ hf]
      have some : properties.isEmpty = false := by simpa [← h.empty] using none
      simp only [some, Bool.false_eq_true, ↓reduceIte, openingFlat, endingFlat, String.append_assoc]
  · intro options start depth hf
    simp only [Doc.printAll, Doc.print, Page.laidOutAll, Page.laidOut, String.join_cons,
      rest.laidOut options start depth hf]
    by_cases none : entries = []
    · simp [none, h.empty.mp none, Doc.printEntries, Doc.braces, empty, String.append_assoc,
        -String.reduceAppend]
    · rw [braces_laidOut _ _ hf (by simpa [Doc.printEntries_eq_nil] using none), Nat.add_assoc,
        h.laidOut options start _ hf]
      have some : properties.isEmpty = false := by simpa [← h.empty] using none
      simp only [some, Bool.false_eq_true, ↓reduceIte, opening, ending, Page.copies,
        Doc.indentation, String.append_assoc]

/-! ## Templates -/

namespace Template

variable {α ε : Type}

/-- Blocks stand only between the parentheses of an object schema. -/
inductive Framed : Template α → Prop
  | nil : Framed []
  | text (content : String) {rest : Template α} (h : Framed rest) : Framed (.text content :: rest)
  | hole (child : α) {rest : Template α} (h : Framed rest) : Framed (.hole child :: rest)
  | object (entries : List (String × α)) (closing : String) {rest : Template α}
      (h : Framed rest) :
      Framed (.text "z.object(" :: .block entries :: .text (")" ++ closing) :: rest)

theorem Framed.append {first second : Template α} (h : Framed first) (h' : Framed second) :
    Framed (first ++ second) := by
  induction h with
  | nil => exact h'
  | text content _ ih => exact .text content ih
  | hole child _ ih => exact .hole child ih
  | object entries closing _ ih => exact .object entries closing ih

theorem Framed.single (content : String) : Framed (Template.text content : Template α) :=
  .text content .nil

theorem framed_list (children : List α) : Framed (list children) := by
  induction children using list.induct with
  | case1 => exact .nil
  | case2 child => exact .hole child .nil
  | case3 child rest more ih =>
    rw [list]
    · exact .hole child (.text ", " ih)
    · exact more

/-- Every child that renders does so to a page. -/
def Paged (render : α → Nat → Except ε Doc) : Prop :=
  ∀ child deeper doc, render child deeper = .ok doc → ∃ page, doc.PrintsAs page

theorem fillEntries_paged {render : α → Nat → Except ε Doc} (paged : Paged render)
    {entries : List (String × α)} {docs : List (String × Doc)}
    (h : fillEntries render entries = .ok docs) :
    ∃ properties, Doc.EntriesPrintAs docs properties := by
  induction entries generalizing docs with
  | nil =>
    cases h
    exact ⟨[], .nil⟩
  | cons entry rest ih =>
    obtain ⟨name, child⟩ := entry
    obtain ⟨doc, rendered, h⟩ := bind_eq_ok_iff.mp h
    obtain ⟨others, later, h⟩ := bind_eq_ok_iff.mp h
    cases h
    obtain ⟨page, hp⟩ := paged child 1 doc rendered
    obtain ⟨properties, hps⟩ := ih later
    exact ⟨(name, page) :: properties, .cons hp hps⟩

theorem fillPieces_paged {render : α → Nat → Except ε Doc} (paged : Paged render)
    {template : Template α} (framed : template.Framed) {docs : List Doc}
    (h : fillPieces render template = .ok docs) : ∃ pages, Doc.AllPrintAs docs pages := by
  induction framed generalizing docs with
  | nil =>
    cases h
    exact ⟨[], .nil⟩
  | text content _ ih =>
    obtain ⟨others, later, h⟩ := bind_eq_ok_iff.mp h
    cases h
    obtain ⟨pages, hps⟩ := ih later
    exact ⟨_, .cons (.text content) hps⟩
  | hole child _ ih =>
    obtain ⟨doc, rendered, h⟩ := bind_eq_ok_iff.mp h
    obtain ⟨others, later, h⟩ := bind_eq_ok_iff.mp h
    cases h
    obtain ⟨page, hp⟩ := paged child 0 doc rendered
    obtain ⟨pages, hps⟩ := ih later
    exact ⟨_, .cons hp hps⟩
  | object entries closing _ ih =>
    obtain ⟨opened, block, h⟩ := bind_eq_ok_iff.mp h
    cases h
    obtain ⟨named, inner, closed⟩ := bind_eq_ok_iff.mp block
    obtain ⟨closed, text, h⟩ := bind_eq_ok_iff.mp closed
    cases h
    obtain ⟨others, later, h⟩ := bind_eq_ok_iff.mp text
    cases h
    obtain ⟨properties, hp⟩ := fillEntries_paged paged inner
    obtain ⟨pages, hps⟩ := ih later
    exact ⟨_, hp.object hps⟩

end Template

/-! ## Rules -/

open Template

/-- The template of a rule, where there is one, is framed. -/
def Rule.Framed (rule : Rule) : Prop :=
  ∀ (reading : Reading) (whole : Value) (definition : Members whole) (template),
    rule reading definition = .ok template → template.Framed

namespace Rule

theorem framed_of_text {rule : Rule} {content : Reading → (whole : Value) → Members whole → String}
    (h : ∀ (reading : Reading) (whole : Value) (definition : Members whole),
      rule reading definition = .ok (.text (content reading whole definition))) : rule.Framed := by
  intro reading whole definition template ht
  rw [h] at ht
  cases ht
  exact .single _

theorem framed_list_between (opening closing : String) {α : Type} (children : List α) :
    Template.Framed (.text opening :: Template.list children ++ [.text closing]) :=
  (Framed.text opening (framed_list children)).append (.single closing)

theorem discriminatedOf_framed {α : Type} (discriminator : Option Value) (options : List α) :
    (discriminatedOf discriminator options).Framed :=
  framed_list_between _ _ options

theorem effectOf_framed {α : Type} (inner : α) (effect : Option String) :
    (effectOf inner effect).Framed := by
  unfold effectOf
  split
  · exact .hole _ (.text _ .nil)
  · exact .hole _ (.text _ .nil)
  · exact .text _ (.hole _ (.text _ .nil))
  · exact .hole _ .nil

theorem callWith_framed {α : Type} (method : String) (arguments : List α) :
    (callWith method arguments).Framed := by
  unfold callWith
  split
  · exact .nil
  · exact framed_list_between _ _ arguments

theorem childOr_framed {α : Type} (child : Option α) (missing : String) {rest : Template α}
    (h : rest.Framed) : Template.Framed (childOr child missing :: rest) := by
  cases child with
  | none => exact .text missing h
  | some child => exact .hole child h

theorem date_framed : date.Framed := by
  intro reading whole definition template h
  obtain ⟨calls, -, h⟩ := bind_eq_ok_iff.mp h
  cases h
  exact .single _

theorem modifier_framed (method : String) : (modifier method).Framed := by
  intro reading whole definition template h
  simp only [modifier] at h
  split at h <;> cases h
  · exact .hole _ (.text _ .nil)
  · exact .single _

theorem readonly_framed : readonly.Framed := by
  intro reading whole definition template h
  simp only [readonly] at h
  split at h <;> cases h
  · exact .hole _ (.text _ .nil)
  · exact .single _

theorem branded_framed : branded.Framed := by
  intro reading whole definition template h
  simp only [branded] at h
  split at h <;> cases h
  · exact .hole _ (.text _ .nil)
  · exact .single _

theorem fallback_framed (kind : Fallback) : (fallback kind).Framed := by
  intro reading whole definition template h
  simp only [fallback] at h
  split at h <;> cases h
  · exact .hole _ (.text _ .nil)
  · exact .single _

theorem promise_framed : promise.Framed := by
  intro reading whole definition template h
  simp only [promise] at h
  split at h <;> cases h
  · exact .text _ (.hole _ (.text _ .nil))
  · exact .single _

theorem array_framed : array.Framed := by
  intro reading whole definition template h
  simp only [array] at h
  split at h <;> cases h
  · exact .text _ (.hole _ (.text _ .nil))
  · exact .single _

theorem set_framed : set.Framed := by
  intro reading whole definition template h
  simp only [set] at h
  split at h <;> cases h
  · exact .text _ (.hole _ (.text _ .nil))
  · exact .single _

theorem tuple_framed : tuple.Framed := by
  intro reading whole definition template h
  have items := framed_list_between "z.tuple([" "])" (definition.items "items")
  simp only [tuple] at h
  split at h <;> cases h
  · exact items.append (.text _ (.hole _ (.text _ .nil)))
  · exact items

theorem keyed_framed (name : String) : (keyed name).Framed := by
  intro reading whole definition template h
  cases h
  exact .text _ (childOr_framed _ _ (.text _ (childOr_framed _ _ (.text _ .nil))))

theorem union_framed : union.Framed := by
  intro reading whole definition template h
  simp only [union] at h
  split at h <;> cases h
  · exact discriminatedOf_framed _ _
  · exact framed_list_between _ _ _

theorem discriminatedUnion_framed : discriminatedUnion.Framed := by
  intro reading whole definition template h
  cases h
  exact discriminatedOf_framed _ _

theorem intersection_framed : intersection.Framed := by
  intro reading whole definition template h
  simp only [intersection] at h
  split at h <;> cases h
  · exact .text _ (.hole _ (.text _ (.hole _ (.text _ .nil))))
  · exact .single _

theorem effects_framed : effects.Framed := by
  intro reading whole definition template h
  simp only [effects] at h
  split at h <;> cases h
  · exact effectOf_framed _ _
  · exact .single _

theorem pipe_framed : pipe.Framed := by
  intro reading whole definition template h
  simp only [pipe] at h
  split at h
  · cases h
    exact .single _
  · split at h
    · cases h
      exact .hole _ .nil
    · split at h <;> cases h
      · exact .hole _ (.text _ .nil)
      · exact .hole _ (.text _ (.hole _ (.text _ .nil)))

theorem pipeline_framed : pipeline.Framed := by
  intro reading whole definition template h
  simp only [pipeline] at h
  split at h <;> cases h
  · exact .single _
  · exact .hole _ (.text _ (.hole _ (.text _ .nil)))
  · exact .hole _ .nil

theorem function_framed : function.Framed := by
  intro reading whole definition template h
  cases h
  exact (Framed.text _ (callWith_framed _ _)).append (callWith_framed _ _)

theorem object_framed : object.Framed := by
  intro reading whole definition template h
  obtain ⟨shape, -, h⟩ := bind_eq_ok_iff.mp h
  cases shape with
  | none =>
    cases h
    exact .single _
  | some shape =>
    simp only at h
    split at h <;> cases h
    · exact (Framed.object _ _ .nil).append (.text _ (.hole _ (.text _ .nil)))
    · exact .object _ _ .nil

end Rule

theorem Kind.rule_framed (kind : Kind) : kind.rule.Framed := by
  cases kind with
  | date => exact Rule.date_framed
  | optional | nullable | nullish => exact Rule.modifier_framed _
  | default | recovery => exact Rule.fallback_framed _
  | array => exact Rule.array_framed
  | object => exact Rule.object_framed
  | record | map => exact Rule.keyed_framed _
  | set => exact Rule.set_framed
  | tuple => exact Rule.tuple_framed
  | union => exact Rule.union_framed
  | discriminatedUnion => exact Rule.discriminatedUnion_framed
  | intersection => exact Rule.intersection_framed
  | promise => exact Rule.promise_framed
  | function => exact Rule.function_framed
  | effects => exact Rule.effects_framed
  | pipe => exact Rule.pipe_framed
  | pipeline => exact Rule.pipeline_framed
  | branded => exact Rule.branded_framed
  | readonly => exact Rule.readonly_framed
  | _ => exact Rule.framed_of_text fun _ _ _ => rfl

/-! ## Rendering -/

namespace Renderer

theorem renderAt_paged (dialect : Dialect) (options : Options) (level : Nat) (node : Value)
    (doc : Doc) (h : (ofDialect dialect).renderAt options level node = .ok doc) :
    ∃ page, doc.PrintsAs page := by
  induction node using Part.induction generalizing level doc with
  | step node ih =>
    rw [renderAt_ofDialect] at h
    split at h
    · split at h
      · cases h
        exact ⟨_, .text _⟩
      · split at h
        · cases h
          exact ⟨_, .text _⟩
        · rename_i kind _
          obtain ⟨template, ruled, filled⟩ := bind_eq_ok_iff.mp h
          obtain ⟨docs, pieces, h⟩ := bind_eq_ok_iff.mp filled
          cases h
          have paged : Paged fun (part : Part node) deeper =>
              (ofDialect dialect).renderAt options (level + deeper) part.1 :=
            fun part deeper inner rendered => ih part _ inner rendered
          obtain ⟨pages, printed⟩ :=
            fillPieces_paged paged (kind.rule_framed _ _ _ _ ruled) pieces
          exact ⟨_, printed.concat⟩
    · cases h
      exact ⟨_, .text _⟩

/-- **Layout is apart from content.** For either version and either setting of the optimizations a
value has one outcome: a fault, or a page. Whatever the indentation, its level and the format, the
fault is the answer, or the text is that page, on one line or in lines. -/
theorem render_eq_page (version : Version) (optimizations : Optimizations) (node : Value) :
    ∃ outcome : Except RenderFault Page, ∀ (indent : String) (indentLevel : Nat),
      (ofVersion version).render ⟨indent, indentLevel, false, optimizations⟩ node =
          outcome.map Page.flat ∧
        (ofVersion version).render ⟨indent, indentLevel, true, optimizations⟩ node =
          outcome.map (Page.laidOut indent indentLevel 0) := by
  have document (options : Options) (same : options.optimizations = optimizations) :
      (ofVersion version).document options node =
        (ofVersion version).document { optimizations } node :=
    renderAt_congr version.dialect same _ _ node
  cases h : (ofVersion version).document { optimizations } node with
  | error fault =>
    refine ⟨.error fault, fun indent indentLevel => ⟨?_, ?_⟩⟩
    · rw [render, document _ rfl, h]; rfl
    · rw [render, document _ rfl, h]; rfl
  | ok doc =>
    obtain ⟨page, printed⟩ := renderAt_paged version.dialect _ _ node doc h
    refine ⟨.ok page, fun indent indentLevel => ⟨?_, ?_⟩⟩
    · rw [render, document _ rfl, h]
      exact congrArg Except.ok (printed.flat _ _ rfl)
    · rw [render, document _ rfl, h]
      exact congrArg Except.ok (printed.laidOut ⟨indent, indentLevel, true, optimizations⟩ _ 0 rfl)

end Renderer
end SchemaSource
