import Mathlib.Control.Monad.Basic
import SchemaSource.Proofs.ScannedRules
import SchemaSource.Proofs.Faults
import SchemaSource.Text.Blank
/-!
The text of any value can be taken apart again. Where the data that is written as it stands is
clean, brackets are nested, strings and comments end, and a flat text is one line, whatever else the
value holds and whether or not it is a schema.
-/
namespace SchemaSource

open Text
open Renderer (definitionIn)

/-! ## Layout -/

/-- A blank means nothing to a scan of code. -/
theorem Text.isBlank_inert {c : Char} (blank : isBlank c = true) : c ∉ activeChars := by
  have active : activeChars.any isBlank = false := by decide
  intro member
  exact List.any_eq_false.mp active c member blank

namespace Options

/-- Where texts are laid out, they are indented by blanks. -/
def IndentsByBlanks (options : Options) : Prop :=
  options.format = true → ∀ c ∈ options.indent.toList, isBlank c = true

variable {options : Options}

theorem indentation_moves (blanks : ∀ c ∈ options.indent.toList, isBlank c = true) (level : Nat) :
    Moves true [] (Doc.indentation options level) [] := by
  refine .join fun text member => ?_
  rw [List.eq_of_mem_replicate member]
  constructor
  · intro outer
    have ran := run_of_inert (fun c member => isBlank_inert (blanks c member)) ([] ++ outer) []
    rw [List.append_nil] at ran
    exact ran
  · intro flat
    cases flat

/-- Properties in braces, laid out or on one line. -/
theorem braces_moves (fits : options.IndentsByBlanks) (level : Nat) {entries : List String}
    (each : ∀ entry ∈ entries, Moves options.format [] entry []) :
    Moves options.format [] (Doc.braces options level entries) [] := by
  unfold Doc.braces
  split
  · exact .fixed (by decide)
  · cases format : options.format with
    | false =>
      rw [format] at each
      have comma : Moves false [] ", " [] := .fixed (by decide)
      have opening : Moves false [] "\x7b " [.curly] := .fixed (by decide)
      have closing : Moves false [.curly] " \x7d" [] := .fixed (by decide)
      exact (opening.append ((Moves.intercalate comma each).between_brackets _)).append closing
    | true =>
      rw [format] at each
      have margin := indentation_moves (fits format)
      have opening : Moves true [] "\x7b\n" [.curly] := .fixed_in_lines (by decide)
      have comma : Moves true [] ",\n" [] := .fixed_in_lines (by decide)
      have closing : Moves true [.curly] "\x7d" [] := .fixed (by decide)
      have lines : Moves true [] (",\n".intercalate
          (entries.map (Doc.indentation options (level + 1) ++ ·))) [] := by
        refine .intercalate comma fun line member => ?_
        obtain ⟨entry, inside, rfl⟩ := List.mem_map.mp member
        exact (margin _).append (each entry inside)
      exact (((opening.append (lines.between_brackets _)).append
        (comma.between_brackets _)).append ((margin level).between_brackets _)).append closing

end Options

namespace Template

variable {α ε : Type} {options : Options} {level : Nat} {render : α → Nat → Except ε String}

theorem printEntries_moves {lines : Bool} {entries : List (String × α)} {texts : List String}
    (each : ∀ entry ∈ entries, ∀ l text, render entry.2 l = .ok text →
      Text.Moves lines [] text [])
    (printed : printEntries level render entries = .ok texts) :
    ∀ text ∈ texts, Text.Moves lines [] text [] := by
  induction entries generalizing texts with
  | nil =>
    cases printed
    intro text member
    cases member
  | cons entry rest ih =>
    obtain ⟨name, child⟩ := entry
    obtain ⟨text, rendered, printed⟩ := bind_eq_ok_iff.mp printed
    obtain ⟨others, later, printed⟩ := bind_eq_ok_iff.mp printed
    cases printed
    have colon : Text.Moves lines [] ": " [] := .fixed (by decide)
    have here := each (name, child) List.mem_cons_self _ _ rendered
    intro entry member
    rcases List.mem_cons.mp member with rfl | other
    · exact ((propertyName_moves name).append colon).append here
    · exact ih (fun e inside => each e (List.mem_cons_of_mem _ inside)) later entry other

/-- A template does what its texts do, when its children have texts that leave the brackets alone. -/
theorem Moves.print {template : Template α} {before after : List Bracket}
    (moves : template.Moves options.format before after) (fits : options.IndentsByBlanks)
    (each : ∀ child ∈ template.holes, ∀ l text, render child l = .ok text →
      Text.Moves options.format [] text [])
    {text : String} (printed : Template.print options level render template = .ok text) :
    Text.Moves options.format before text after := by
  induction moves generalizing text with
  | nil brackets =>
    cases printed
    exact .empty brackets
  | text content later ih =>
    obtain ⟨rest, others, printed⟩ := bind_eq_ok_iff.mp printed
    cases printed
    exact content.append (ih each others)
  | hole child later ih =>
    obtain ⟨inner, rendered, printed⟩ := bind_eq_ok_iff.mp printed
    obtain ⟨rest, others, printed⟩ := bind_eq_ok_iff.mp printed
    cases printed
    have here := each child List.mem_cons_self _ _ rendered
    exact (here.between_brackets _).append
      (ih (fun c member => each c (List.mem_cons_of_mem _ member)) others)
  | block entries later ih =>
    obtain ⟨texts, rendered, printed⟩ := bind_eq_ok_iff.mp printed
    obtain ⟨rest, others, printed⟩ := bind_eq_ok_iff.mp printed
    cases printed
    have here : ∀ text ∈ texts, Text.Moves options.format [] text [] :=
      printEntries_moves (fun entry member => each entry.2
        (List.mem_append_left _ (List.mem_map_of_mem member))) rendered
    exact ((Options.braces_moves fits level here).between_brackets _).append
      (ih (fun c member => each c (List.mem_append_right _ member)) others)

end Template

/-! ## Clean values -/

/-- What a value by itself has written as it stands is clean: what stands in the definition of a
schema, and the tag of a schema that has no rule. -/
structure Value.IsClean (dialect : Dialect) (node : Value) : Prop where
  definition : (dialect.kind? node).isSome → (definitionIn dialect node).fields.HasCleanText
  tag : dialect.recognizes node = true → ∀ tag ∈ dialect.tag? node,
    Kind.ofTag? tag = none → Text.IsClean tag

instance (dialect : Dialect) (node : Value) : Decidable (node.IsClean dialect) :=
  decidable_of_iff
    (((dialect.kind? node).isSome → (definitionIn dialect node).fields.HasCleanText) ∧
      (dialect.recognizes node = true → ∀ tag ∈ dialect.tag? node,
        Kind.ofTag? tag = none → Text.IsClean tag))
    ⟨fun both => ⟨both.1, both.2⟩, fun clean => ⟨clean.definition, clean.tag⟩⟩

/-- Everything that is visited for a value is clean. What only lies in its data, such as a default
that looks like a schema, may hold anything. -/
def Value.IsCleanThroughout (dialect : Dialect) (node : Value) : Prop :=
  ∀ inner ∈ dialect.visits node, inner.IsClean dialect

namespace Value.IsCleanThroughout

variable {dialect : Dialect} {node : Value}

theorem self (clean : node.IsCleanThroughout dialect) : node.IsClean dialect :=
  clean node (by rw [Dialect.visits]; exact List.mem_cons_self)

theorem child (clean : node.IsCleanThroughout dialect) {child : Part node}
    (member : child ∈ dialect.childrenOf node) : child.1.IsCleanThroughout dialect := by
  intro inner visited
  refine clean inner ?_
  rw [Dialect.visits]
  exact List.mem_cons_of_mem _ (List.mem_flatMap.mpr ⟨child, member, visited⟩)

end Value.IsCleanThroughout

/-! ## Rendering -/

theorem Rule.exists_of_view {rule : Rule} {reading : Reading} {whole : Value}
    {definition : Members whole} {view : Template Value}
    (viewed : rule.view reading definition = .ok view) :
    ∃ template, rule reading definition = .ok template ∧ template.map (·.1) = view := by
  unfold Rule.view at viewed
  cases ruled : rule reading definition with
  | error fault =>
    rw [ruled] at viewed
    cases viewed
  | ok template =>
    rw [ruled] at viewed
    cases viewed
    exact ⟨template, rfl, rfl⟩

/-- A rule with a template has the children of its kind in the holes. -/
theorem Kind.holes_of_rule {kind : Kind} {reading : Reading} {whole : Value}
    {definition : Members whole} {template : Template (Part whole)}
    (ruled : kind.rule reading definition = .ok template) :
    template.holes = kind.children reading.dialect definition := by
  have yields := kind.rule_yields reading definition
  rw [ruled] at yields
  unfold Yields at yields
  split at yields
  · cases yields
  · obtain ⟨_, same, holes⟩ := yields
    cases same
    exact holes

/-- A comment goes on until a star. -/
theorem run_comment {cs : List Char} (free : '*' ∉ cs) (brackets : List Bracket)
    (rest : List Char) :
    Scan.run ⟨.comment, brackets⟩ (cs ++ rest) = Scan.run ⟨.comment, brackets⟩ rest := by
  induction cs with
  | nil => rfl
  | cons c tail ih =>
    rw [List.mem_cons, not_or] at free
    have stepped : Scan.step ⟨.comment, brackets⟩ c = some ⟨.comment, brackets⟩ := by
      simp only [Scan.step, ScanMode.skip?, if_neg (Ne.symm free.1)]
    rw [List.cons_append, Scan.run, stepped, Option.bind_some]
    exact ih free.2

namespace Renderer

variable {lines : Bool}

theorem unhandled_moves {tag : String} (clean : Text.IsClean tag) :
    Moves lines [] (unhandled tag) [] := by
  have free : '*' ∉ tag.toList := fun member => clean '*' member List.mem_cons_self
  unfold unhandled
  constructor
  · intro outer
    have opened : Scan.run ⟨.code, []⟩ "z.any() /* unhandled type: ".toList =
        some ⟨.comment, []⟩ := by decide
    have opened := Scan.run_within outer opened
    have closed : Scan.run ⟨.comment, outer⟩ " */".toList = some ⟨.code, outer⟩ := rfl
    simp only [Scan.within, List.nil_append] at opened ⊢
    rw [String.toList_append, String.toList_append, List.append_assoc, Scan.run_append, opened,
      Option.bind_some, run_comment free, closed]
  · intro _ member
    rw [String.toList_append, String.toList_append, List.mem_append, List.mem_append] at member
    rcases member with (before | inTag) | after
    · exact absurd before (by decide)
    · exact clean.one_line inTag
    · exact absurd after (by decide)

theorem unknownType_moves : Moves lines [] unknownType [] := .fixed (by decide)

theorem notASchema_moves (value : Value) : Moves lines [] (notASchema value) [] := by
  have each : ∀ kind ∈ ["undefined", "boolean", "number", "bigint", "string", "function", "object"],
      Scan.run ⟨.code, []⟩ ("/* not a zod schema: " ++ kind ++ " */").toList =
          some ⟨.code, []⟩ ∧
        '\n' ∉ ("/* not a zod schema: " ++ kind ++ " */").toList := by
    decide +kernel
  have known : value.kindName ∈
      ["undefined", "boolean", "number", "bigint", "string", "function", "object"] := by
    cases value <;> simp [Value.kindName]
  exact .fixed (each _ known)

/-- A value of no known kind is a comment, or a fixed text. -/
theorem otherwise_moves {dialect : Dialect} {options : Options} {level : Nat} {node : Value}
    (unknown : dialect.kind? node = none) (clean : node.IsClean dialect) {text : String}
    (rendered : textAt dialect options level node = .ok text) : Moves lines [] text [] := by
  rw [textAt, renderAt_ofDialect] at rendered
  cases recognized : dialect.recognizes node with
  | false =>
    rw [recognized] at rendered
    cases rendered
    exact notASchema_moves node
  | true =>
    rw [Dialect.kind?, recognized, if_pos rfl] at unknown
    rw [recognized, if_pos rfl] at rendered
    cases tagged : dialect.tag? node with
    | none =>
      rw [tagged] at rendered
      cases rendered
      exact unknownType_moves
    | some tag =>
      rw [tagged, Option.bind_some] at unknown
      rw [tagged] at rendered
      simp only [unknown] at rendered
      cases rendered
      exact unhandled_moves (clean.tag recognized tag tagged unknown)

/-- The text of a clean value leaves the brackets around it alone. -/
theorem textAt_moves {dialect : Dialect} {options : Options} (fits : options.IndentsByBlanks)
    {level : Nat} {node : Value} (clean : node.IsCleanThroughout dialect) {text : String}
    (rendered : textAt dialect options level node = .ok text) :
    Moves options.format [] text [] := by
  induction node using Part.induction generalizing level text with
  | step node ih =>
    cases known : dialect.kind? node with
    | none =>
      exact otherwise_moves known clean.self rendered
    | some kind =>
      obtain ⟨recognized, tagged⟩ := Dialect.of_kind? known
      rw [textAt_of_kind recognized tagged] at rendered
      obtain ⟨view, viewed, printed⟩ := bind_eq_ok_iff.mp rendered
      obtain ⟨template, ruled, rfl⟩ := Rule.exists_of_view viewed
      rw [Template.print_map] at printed
      have written := clean.self.definition (by rw [known]; rfl)
      have nested := kind.rule_nests options.format _ _ _ _ written ruled
      refine nested.print fits (fun child member l text rendered => ?_) printed
      rw [kind.holes_of_rule ruled] at member
      have rendersChild : child ∈ dialect.childrenOf node := by
        rw [Dialect.childrenOf, known]
        exact member
      exact ih child (clean.child rendersChild) rendered

/-- **Texts are well nested.** Where a value is rendered, schema or not, a scan of the text finds
every bracket matched and ends outside of strings and comments, and a flat text is one line. Only
what is written as it stands has to be clean, and a laid out text to be indented by blanks; names,
literals, members, tables, fallbacks, discriminators, operands and messages may hold anything. -/
theorem render_isWellNested (version : Version) {options : Options} {node : Value}
    (clean : node.IsCleanThroughout version.dialect) (fits : options.IndentsByBlanks)
    {text : String} (rendered : (ofVersion version).render options node = .ok text) :
    IsWellNested text ∧ (options.format = false → '\n' ∉ text.toList) :=
  have moves := textAt_moves fits clean rendered
  ⟨moves.isWellNested, moves.inLine⟩

/-- An object whose names and data are full of brackets, quotes, comment marks and line ends. -/
def awkwardProperties : Value :=
  kindNode "object"
    [("shape", .object
      [("a(\n", kindNode "string"
        [("checks", .array
          [namedEntry "min_length" [("value", .string "n")],
           namedEntry "pattern" [("pattern", .regexp ⟨"a+\\d", "i"⟩)]])]),
       ("*/", kindNode "custom" []),
       ("]", kindNode "literal" [("value", .string "\"/*")])])]

theorem render_isWellNested_awkward :
    let flat := "z.object(\x7b \"a(\\n\": z.string().min(n).regex(/a+\\d/i), " ++
      "\"*/\": z.any() /* unhandled type: custom */, \"]\": z.literal(\"\\\"/*\") \x7d)"
    let lines := "z.object(\x7b\n\t\"a(\\n\": z.string().min(n).regex(/a+\\d/i),\n" ++
      "\t\"*/\": z.any() /* unhandled type: custom */,\n\t\"]\": z.literal(\"\\\"/*\"),\n\x7d)"
    (ofVersion .v4).render .compact awkwardProperties = .ok flat ∧
    IsWellNested flat ∧ '\n' ∉ flat.toList ∧
    (ofVersion .v4).render { indent := "\t" } awkwardProperties = .ok lines ∧
    IsWellNested lines := by
  intro flat lines
  have clean : awkwardProperties.IsCleanThroughout .v4 := by
    unfold Value.IsCleanThroughout
    decide +kernel
  have onOneLine : (ofVersion .v4).render .compact awkwardProperties = .ok flat := by
    decide +kernel
  have laidOut : (ofVersion .v4).render { indent := "\t" } awkwardProperties = .ok lines := by
    decide +kernel
  have tabs : Options.IndentsByBlanks { indent := "\t" } := by
    intro _ c tab
    rw [List.mem_singleton.mp tab]
    decide
  have flatFits : Options.IndentsByBlanks .compact := by
    intro laidOut
    cases laidOut
  have nested := render_isWellNested .v4 clean flatFits onOneLine
  exact ⟨onOneLine, nested.1, nested.2 rfl, laidOut, (render_isWellNested .v4 clean tabs laidOut).1⟩

end Renderer
end SchemaSource
