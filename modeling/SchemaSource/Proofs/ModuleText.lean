import Mathlib.Data.List.Nodup
import SchemaSource.Module
/-!
Modules entry by entry. What becomes of a named value is settled by its own name and value alone,
and the text of a module is an opening that its header settles, the text of each entry in order,
and a section of types for what was exported. So the module of values in a row is put together from
the modules of the parts.
-/
namespace SchemaSource

namespace Module

/-- The text above all entries: a header with an empty line after it, and the import. -/
def opening : Option String → String
  | some header => header ++ "\n" ++ "\n" ++ importStatement ++ "\n"
  | none => importStatement ++ "\n"

/-- The constant of an entry. -/
def statement? (name : String) : Disposition → Option String
  | .exported text => some ("export const " ++ name ++ " = " ++ text ++ ";")
  | .failed _ => some ("export const " ++ name ++ " = z.any(); // Serialization failed")
  | .skipped | .filtered => none

/-- The text of an entry: its constant between two line ends, or nothing. -/
def entryText (name : String) (fate : Disposition) : String :=
  match statement? name fate with
  | some statement => "\n" ++ statement ++ "\n"
  | none => ""

/-- The section of types: one for each name, where there are names. -/
def typesText (includeTypes : Bool) (names : List String) : String :=
  if includeTypes && !names.isEmpty then
    "\n// Type exports" ++ String.join (names.map fun name => "\n" ++ typeLine name)
  else ""

/-! ## Lines and their ends -/

/-- Lines that each bring the line end before them. -/
def continued (lines : List String) : String := String.join (lines.map ("\n" ++ ·))

theorem continued_append (first second : List String) :
    continued (first ++ second) = continued first ++ continued second := by
  rw [continued, List.map_append, String.join_append]
  rfl

theorem intercalate_eq_continued (first : String) (rest : List String) :
    "\n".intercalate (first :: rest) = first ++ continued rest := by
  induction rest generalizing first with
  | nil => simp [continued]
  | cons second rest ih =>
    rw [String.intercalate_cons_cons, ih second]
    simp only [continued, List.map_cons, String.join_cons, String.append_assoc]

theorem continued_constantLines (name : String) (fate : Disposition) :
    continued (constantLines name fate) = entryText name fate := by
  cases fate with
  | skipped | filtered => rfl
  | exported text => simp [continued, constantLines, entryText, statement?]
  | failed error => simp [continued, constantLines, entryText, statement?]

theorem continued_entries (entries : List (String × Disposition)) :
    continued (entries.flatMap fun entry => constantLines entry.1 entry.2) =
      String.join (entries.map fun entry => entryText entry.1 entry.2) := by
  induction entries with
  | nil => rfl
  | cons entry rest ih =>
    rw [List.flatMap_cons, continued_append, continued_constantLines, ih, List.map_cons,
      String.join_cons]

theorem continued_typeLines (includeTypes : Bool) (names : List String) :
    continued (typeLines includeTypes names) = typesText includeTypes names := by
  unfold typeLines typesText
  split
  · simp [continued, Function.comp_def]
  · rfl

/-- The text of a module, piece by piece. -/
theorem code_eq (m : Module) :
    m.code = opening m.header
      ++ String.join (m.entries.map fun entry => entryText entry.1 entry.2)
      ++ typesText m.includeTypes m.exported := by
  have body (first : String) (rest : List String) :
      "\n".intercalate (first :: rest
          ++ m.entries.flatMap (fun entry => constantLines entry.1 entry.2)
          ++ typeLines m.includeTypes m.exported) =
        first ++ continued rest
          ++ String.join (m.entries.map fun entry => entryText entry.1 entry.2)
          ++ typesText m.includeTypes m.exported := by
    rw [List.append_assoc, List.cons_append, intercalate_eq_continued, continued_append,
      continued_append, continued_entries, continued_typeLines]
    simp only [String.append_assoc]
  unfold code lines
  cases m.header with
  | none =>
    refine (body importStatement [""]).trans ?_
    simp [continued, opening]
  | some header =>
    refine (body header ["", importStatement, ""]).trans ?_
    simp only [continued, opening, List.map_cons, List.map_nil, String.join_cons, String.join_nil,
      String.append_assoc, String.append_empty]

/-! ## Lists of names -/

/-- The entries with one of the four fates are all there are, and no entry has two fates. -/
theorem count_by_fate (name : String) (entries : List (String × Disposition)) :
    (((entries.filter fun entry => entry.2.isExported).map (·.1)).count name
        + ((entries.filter fun entry => entry.2.isFailed).map (·.1)).count name
        + ((entries.filter fun entry => entry.2.isFiltered).map (·.1)).count name
        + ((entries.filter fun entry => entry.2.isSkipped).map (·.1)).count name) =
      (entries.map (·.1)).count name := by
  induction entries with
  | nil => rfl
  | cons entry rest ih =>
    obtain ⟨first, fate⟩ := entry
    cases fate <;>
      simp only [Disposition.isExported, Disposition.isFailed, Disposition.isFiltered,
        Disposition.isSkipped, List.filter_cons, List.map_cons, List.count_cons, ↓reduceIte,
        Bool.false_eq_true] at ih ⊢ <;>
      omega

/-- The lists of a module divide some names among them: every name stands in one of the four, once,
and each list keeps the order of the names. -/
structure Partitions (m : Module) (names : List String) : Prop where
  once : ∀ name ∈ names,
    m.exported.count name + m.failed.count name + m.filtered.count name + m.skipped.count name = 1
  exported : m.exported.Sublist names
  failed : m.failed.Sublist names
  filtered : m.filtered.Sublist names
  skipped : m.skipped.Sublist names

theorem namesOf_sublist (m : Module) (fate : Disposition → Bool) :
    (m.namesOf fate).Sublist (m.entries.map (·.1)) :=
  List.filter_sublist.map _

theorem partitions_of_nodup {m : Module} (distinct : (m.entries.map (·.1)).Nodup) :
    m.Partitions (m.entries.map (·.1)) where
  once name member := by
    rw [← List.count_eq_one_of_mem distinct member]
    exact count_by_fate name m.entries
  exported := m.namesOf_sublist _
  failed := m.namesOf_sublist _
  filtered := m.namesOf_sublist _
  skipped := m.namesOf_sublist _

end Module

/-- The names of some values, each judged by itself. -/
def Fields.namesWhere (values : Fields) (test : String → Value → Bool) : List String :=
  Fields.keys (values.filter fun entry => test entry.1 entry.2)

/-- Texts of some values in a row, each by itself. -/
def Fields.texts (values : Fields) (text : String → Value → String) : String :=
  String.join (values.map fun entry => text entry.1 entry.2)

theorem Fields.texts_append (xs ys : Fields) (text : String → Value → String) :
    Fields.texts (xs ++ ys) text = Fields.texts xs text ++ Fields.texts ys text := by
  simp only [Fields.texts, List.map_append, String.join_append]

namespace ModuleSettings

variable (settings : ModuleSettings) (renderer : Renderer) (options : Options)

theorem names_build (values : Fields) :
    (settings.build renderer options values).entries.map (·.1) = values.keys := by
  simp [build, Fields.keys, Function.comp_def]

theorem namesOf_build (fate : Disposition → Bool) (values : Fields) :
    (settings.build renderer options values).namesOf fate =
      values.namesWhere fun name value => fate (settings.dispose renderer options name value) := by
  simp only [Module.namesOf, build, Fields.namesWhere, Fields.keys, List.filter_map, List.map_map]
  rfl

theorem namesOf_build_append (fate : Disposition → Bool) (xs ys : Fields) :
    (settings.build renderer options (xs ++ ys)).namesOf fate =
      (settings.build renderer options xs).namesOf fate
        ++ (settings.build renderer options ys).namesOf fate := by
  simp only [Module.namesOf, build, List.map_append, List.filter_append]

/-- The text of a named value in the modules that are made. -/
def entryText (name : String) (value : Value) : String :=
  Module.entryText name (settings.dispose renderer options name value)

theorem code_build (values : Fields) :
    (settings.build renderer options values).code =
      Module.opening settings.header
        ++ values.texts (settings.entryText renderer options)
        ++ Module.typesText settings.includeTypes
            (settings.build renderer options values).exported := by
  rw [Module.code_eq]
  simp only [build, Fields.texts, List.map_map]
  rfl

/-- **Modules are made entry by entry.** Whatever handlers render, whatever the settings: the lists
of a module divide the names of its values, by a judgement on each name and value alone; its text is
the opening, the text of each entry, and the types of what was exported; and the module of values in
a row is that of the first, followed by what the second has under its opening. -/
theorem build_entrywise :
    (∀ values : Fields, values.keys.Nodup →
      (settings.build renderer options values).Partitions values.keys) ∧
    (∀ values : Fields,
      let m := settings.build renderer options values
      let fate := settings.dispose renderer options
      m.exported = values.namesWhere (fun name value => (fate name value).isExported) ∧
      m.failed = values.namesWhere (fun name value => (fate name value).isFailed) ∧
      m.filtered = values.namesWhere (fun name value => (fate name value).isFiltered) ∧
      m.skipped = values.namesWhere (fun name value => (fate name value).isSkipped)) ∧
    (∀ values : Fields,
      let m := settings.build renderer options values
      m.code = Module.opening settings.header
        ++ values.texts (settings.entryText renderer options)
        ++ Module.typesText settings.includeTypes m.exported) ∧
    ∀ xs ys : Fields,
      let whole := settings.build renderer options (xs ++ ys)
      let first := settings.build renderer options xs
      let second := settings.build renderer options ys
      whole.exported = first.exported ++ second.exported ∧
      whole.failed = first.failed ++ second.failed ∧
      whole.filtered = first.filtered ++ second.filtered ∧
      whole.skipped = first.skipped ++ second.skipped ∧
      (settings.includeTypes = false →
        ∃ constants, second.code = Module.opening settings.header ++ constants ∧
          whole.code = first.code ++ constants) := by
  refine ⟨fun values distinct => ?_, fun values => ?_, settings.code_build renderer options,
    fun xs ys => ?_⟩
  · rw [← settings.names_build renderer options values] at distinct ⊢
    exact Module.partitions_of_nodup distinct
  · exact ⟨settings.namesOf_build renderer options _ values,
      settings.namesOf_build renderer options _ values,
      settings.namesOf_build renderer options _ values,
      settings.namesOf_build renderer options _ values⟩
  · refine ⟨settings.namesOf_build_append renderer options _ xs ys,
      settings.namesOf_build_append renderer options _ xs ys,
      settings.namesOf_build_append renderer options _ xs ys,
      settings.namesOf_build_append renderer options _ xs ys, fun bare => ?_⟩
    have untyped (values : Fields) : (settings.build renderer options values).code =
        Module.opening settings.header ++ values.texts (settings.entryText renderer options) := by
      rw [code_build, bare]
      exact String.append_empty
    refine ⟨ys.texts (settings.entryText renderer options), untyped ys, ?_⟩
    rw [untyped, untyped, Fields.texts_append, String.append_assoc]

/-- Schemas of texts under some names. -/
def stringSchemas (names : List String) : Fields :=
  names.map fun name =>
    (name, .object [("_zod", .object [("def", .object [("type", .string "string")])])])

/-- One value of each fate: a schema, one whose shape throws, one with the name of a type, and a
value that is no schema. -/
def eachFate : Fields :=
  let schema (fields : Fields) : Value := .object [("_zod", .object [("def", .object fields)])]
  [("Name", schema [("type", .string "string")]),
   ("Broken", schema
     [("type", .string "object"), ("shape", .constantFunction (.throws "no shape"))]),
   ("NameType", schema [("type", .string "string")]),
   ("limit", .number (.ofInt 5))]

theorem build_entrywise_each_fate :
    let settings : ModuleSettings := { filter := some fun name _ => isPublicName name }
    let m := settings.build (.ofVersion .v4) {} eachFate
    eachFate.keys.Nodup ∧ m.Partitions ["Name", "Broken", "NameType", "limit"] ∧
      m.exported = ["Name"] ∧ m.failed = ["Broken"] ∧ m.filtered = ["NameType"] ∧
      m.skipped = ["limit"] := by
  refine ⟨by decide, (build_entrywise _ _ _).1 eachFate (by decide), ?_⟩
  decide +kernel

end ModuleSettings
end SchemaSource
