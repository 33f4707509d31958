import SchemaSource.Generation
import SchemaSource.Proofs.ModuleText
/-!
Headers of modules. The import is a single line, so it cannot begin in a header and end below it. A
header without the import in it is therefore cut off as a whole, and what stays is the module that
has no header, whatever its schemas are written like.
-/
namespace SchemaSource

/-- The same settings under another header. -/
def ModuleSettings.withHeader (settings : ModuleSettings) (header : Option String) :
    ModuleSettings :=
  { settings with header }

namespace Module

/-! ## The first place of a phrase -/

section Phrase

variable {phrase text found before rest : List Char}

theorem fromPhrase?_at_start (starts : phrase <+: text) :
    fromPhrase? phrase text = some text := by
  cases text with
  | nil => rw [fromPhrase?, List.prefix_nil.mp starts, List.isEmpty_nil, if_pos rfl]
  | cons c rest => rw [fromPhrase?, if_pos (List.isPrefixOf_iff_prefix.mpr starts)]

theorem fromPhrase?_later {c : Char} (other : ¬phrase <+: c :: rest) :
    fromPhrase? phrase (c :: rest) = fromPhrase? phrase rest := by
  rw [fromPhrase?, if_neg fun starts => other (List.isPrefixOf_iff_prefix.mp starts)]

theorem prefix_of_fromPhrase? (here : fromPhrase? phrase text = some found) : phrase <+: found := by
  induction text with
  | nil =>
    simp only [fromPhrase?, List.isEmpty_iff, Option.ite_none_right_eq_some] at here
    rw [here.1]
    exact List.nil_prefix
  | cons c rest ih =>
    by_cases starts : phrase <+: c :: rest
    · rw [fromPhrase?_at_start starts] at here
      exact Option.some.inj here ▸ starts
    · rw [fromPhrase?_later starts] at here
      exact ih here

/-- A phrase that starts before a mark of which it has none ends before it. -/
theorem prefix_of_prefix_mark (before : List Char) {mark : Char} (apart : mark ∉ phrase)
    (starts : phrase <+: before ++ mark :: rest) : phrase <+: before := by
  rcases List.prefix_or_prefix_of_prefix starts (List.prefix_append before _) with short | long
  · exact short
  · obtain ⟨more, rfl⟩ := long
    cases more with
    | nil => simp
    | cons c more =>
      have next : c = mark := (List.cons_prefix_cons.mp
        ((List.prefix_append_right_inj before).mp starts)).1
      exact absurd (List.mem_append_right before (next ▸ List.mem_cons_self)) apart

/-- A phrase is found in what stands before a mark of which it has none, or after it. -/
theorem fromPhrase?_across {mark : Char} (apart : mark ∉ phrase) (absent : ¬phrase <:+: before) :
    fromPhrase? phrase (before ++ mark :: rest) = fromPhrase? phrase rest := by
  induction before with
  | nil =>
    have other : ¬phrase <+: mark :: rest := fun starts =>
      absent (prefix_of_prefix_mark [] apart starts).isInfix
    exact fromPhrase?_later other
  | cons c before ih =>
    have other : ¬phrase <+: c :: (before ++ mark :: rest) := fun starts =>
      absent (prefix_of_prefix_mark (c :: before) apart starts).isInfix
    have later : ¬phrase <:+: before := fun inside => absent (List.infix_cons inside)
    rw [List.cons_append, fromPhrase?_later other, ih later]

/-- A phrase that occurs in a text is found there, whatever follows. -/
theorem fromPhrase?_inside (letters : phrase ≠ []) (inside : phrase <:+: before)
    (rest : List Char) :
    ∃ found, fromPhrase? phrase (before ++ rest) = some found ∧ rest.length < found.length := by
  induction before with
  | nil => exact absurd (List.infix_nil.mp inside) letters
  | cons c before ih =>
    by_cases starts : phrase <+: c :: (before ++ rest)
    · refine ⟨_, fromPhrase?_at_start starts, ?_⟩
      rw [List.cons_append, List.length_cons, List.length_append]
      omega
    · rw [List.cons_append, fromPhrase?_later starts]
      rcases List.infix_cons_iff.mp inside with here | later
      · exact absurd (here.trans (List.prefix_append (c :: before) rest)) starts
      · exact ih later

end Phrase

/-! ## Cutting off a header -/

theorem newline_not_mem_importStatement : '\n' ∉ importStatement.toList := by decide

/-- The text of a module under its header: the import, the constants and the types. -/
def body (m : Module) : String :=
  importStatement ++ ("\n" ++ (String.join (m.entries.map fun entry => entryText entry.1 entry.2)
    ++ typesText m.includeTypes m.exported))

theorem code_eq_body {m : Module} {header : String} (given : m.header = some header) :
    m.code = header ++ "\n" ++ "\n" ++ m.body := by
  rw [code_eq, given]
  simp only [opening, body, String.append_assoc]

theorem code_eq_body_of_none {m : Module} (given : m.header = none) : m.code = m.body := by
  rw [code_eq, given]
  simp only [opening, body, String.append_assoc]

theorem withoutHeader_eq_of_fromPhrase? {content body : String}
    (found : fromPhrase? importStatement.toList content.toList = some body.toList) :
    withoutHeader content = body := by
  rw [withoutHeader, found]
  exact String.ofList_toList

theorem withoutHeader_at_import {content : String}
    (starts : importStatement.toList <+: content.toList) : withoutHeader content = content :=
  withoutHeader_eq_of_fromPhrase? (fromPhrase?_at_start starts)

theorem import_prefix_body (m : Module) : importStatement.toList <+: m.body.toList := by
  rw [body, String.toList_append]
  exact List.prefix_append _ _

theorem toList_code {m : Module} {header : String} (given : m.header = some header) :
    m.code.toList = header.toList ++ '\n' :: ([] ++ '\n' :: m.body.toList) := by
  rw [code_eq_body given]
  simp [String.toList_append]

/-- A header without the import is cut off, whatever stands under it. -/
theorem withoutHeader_code {m : Module} {header : String} (given : m.header = some header)
    (absent : ¬importStatement.toList <:+: header.toList) : withoutHeader m.code = m.body := by
  have line := newline_not_mem_importStatement
  have blank : ¬importStatement.toList <:+: [] := by decide
  refine withoutHeader_eq_of_fromPhrase? ?_
  rw [toList_code given, fromPhrase?_across line absent, fromPhrase?_across line blank]
  exact fromPhrase?_at_start m.import_prefix_body

/-- A header with the import is cut inside, which leaves more than the module. -/
theorem withoutHeader_code_ne {m : Module} {header : String} (given : m.header = some header)
    (present : importStatement.toList <:+: header.toList) : withoutHeader m.code ≠ m.body := by
  obtain ⟨found, here, longer⟩ :=
    fromPhrase?_inside (by decide) present ('\n' :: ([] ++ '\n' :: m.body.toList))
  rw [← toList_code given] at here
  intro same
  have cut : withoutHeader m.code = String.ofList found := by rw [withoutHeader, here]
  rw [← same, cut, String.toList_ofList] at longer
  simp only [List.nil_append, List.length_cons] at longer
  omega

/-- The header does not show in the text under it. -/
theorem body_build (settings : ModuleSettings) (header : Option String) (renderer : Renderer)
    (options : Options) (values : Fields) :
    ((settings.withHeader header).build renderer options values).body =
      (settings.build renderer options values).body := rfl

theorem withoutHeader_withoutHeader (content : String) :
    withoutHeader (withoutHeader content) = withoutHeader content := by
  cases here : fromPhrase? importStatement.toList content.toList with
  | none =>
    have whole : withoutHeader content = content := by rw [withoutHeader, here]
    rw [whole, whole]
  | some found =>
    have cut : withoutHeader content = String.ofList found := by rw [withoutHeader, here]
    refine withoutHeader_at_import ?_
    rw [cut, String.toList_ofList]
    exact prefix_of_fromPhrase? here

end Module

/-! ## Generated headers -/

namespace Instant

theorem not_mem_padded (width n : Nat) : 'i' ∉ (padded width n).toList := by
  unfold padded
  rw [String.toList_ofList, List.mem_append]
  rintro (zero | digit)
  · exact absurd (List.eq_of_mem_replicate zero) (by decide)
  · exact absurd (Nat.isDigit_of_mem_toDigits (by decide) (by decide) digit) (by decide)

theorem not_mem_yearText (year : Int) : 'i' ∉ (yearText year).toList := by
  unfold yearText
  split
  · exact not_mem_padded _ _
  · rw [String.toList_append, List.mem_append]
    rintro (sign | digits)
    · split at sign <;> exact absurd sign (by decide)
    · exact not_mem_padded _ _ digits

theorem not_mem_isoText (time : Instant) : 'i' ∉ time.isoText.toList := by
  simp [isoText, String.toList_append, not_mem_padded, not_mem_yearText]

end Instant

namespace Config

theorem mem_toList_intercalate {c : Char} {separator : String} {lines : List String}
    (member : c ∈ (separator.intercalate lines).toList) :
    c ∈ separator.toList ∨ ∃ line ∈ lines, c ∈ line.toList := by
  induction lines with
  | nil => simp at member
  | cons line rest ih =>
    cases rest with
    | nil => exact .inr ⟨line, List.mem_cons_self, by simpa using member⟩
    | cons next rest =>
      rw [String.intercalate_cons_cons, String.toList_append, String.toList_append,
        List.mem_append, List.mem_append] at member
      rcases member with (here | between) | later
      · exact .inr ⟨line, List.mem_cons_self, here⟩
      · exact .inl between
      · rcases ih later with between | ⟨other, inside, here⟩
        · exact .inl between
        · exact .inr ⟨other, List.mem_cons_of_mem _ inside, here⟩

/-- The import cannot begin in the header that tells a time. -/
theorem not_mem_datedHeader (time : Instant) :
    'i' ∉ (Module.datedHeader programName time).toList := by
  have dated : 'i' ∉ (" * Generated by " ++ programName ++ " at " ++ time.isoText).toList := by
    simp only [String.toList_append, List.mem_append, not_or]
    exact ⟨⟨⟨by decide, by decide⟩, by decide⟩, Instant.not_mem_isoText time⟩
  intro member
  rcases mem_toList_intercalate member with between | ⟨line, inside, here⟩
  · exact absurd between (by decide)
  · simp only [List.mem_cons, List.not_mem_nil, or_false] at inside
    rcases inside with rfl | rfl | rfl | rfl | rfl
    · exact absurd here (by decide)
    · exact absurd here (by decide)
    · exact absurd here (by decide)
    · exact dated here
    · exact absurd here (by decide)

theorem headerAt_of_custom {config : Config} {header : String}
    (custom : config.output.header = some header) (time : Instant) :
    config.headerAt time = header := by
  rw [headerAt, custom]
  rfl

theorem headerAt_of_dated {config : Config} (dated : config.output.header = none)
    (time : Instant) : config.headerAt time = Module.datedHeader programName time := by
  rw [headerAt, dated]
  rfl

theorem import_not_infix_headerAt {config : Config} (dated : config.output.header = none)
    (time : Instant) :
    ¬Module.importStatement.toList <:+: (config.headerAt time).toList := by
  intro inside
  rw [headerAt_of_dated dated] at inside
  exact not_mem_datedHeader time (inside.subset (by decide))

end Config

namespace Module

/-- **Cutting off the header recovers the module without one**, for all handlers, settings, values
and options, if and only if the import does not stand in the header. It never stands in a generated
header, and what is cut once is not cut again. -/
theorem withoutHeader_recovers :
    (∀ (settings : ModuleSettings) (renderer : Renderer) (options : Options) (values : Fields)
        (header : String),
      withoutHeader ((settings.withHeader (some header)).build renderer options values).code =
          ((settings.withHeader none).build renderer options values).code ↔
        ¬importStatement.toList <:+: header.toList) ∧
    (∀ (config : Config) (time : Instant), config.output.header = none →
      ¬importStatement.toList <:+: (config.headerAt time).toList) ∧
    ∀ content : String, withoutHeader (withoutHeader content) = withoutHeader content := by
  refine ⟨fun settings renderer options values header => ?_,
    fun config time dated => config.import_not_infix_headerAt dated time,
    withoutHeader_withoutHeader⟩
  have bare : ((settings.withHeader none).build renderer options values).code =
      ((settings.withHeader (some header)).build renderer options values).body :=
    code_eq_body_of_none rfl
  rw [bare]
  constructor
  · intro same present
    exact withoutHeader_code_ne rfl present same
  · intro absent
    exact withoutHeader_code rfl absent

/-- A literal that says what the import says. -/
def importing : Fields :=
  [("Line", .object [("_zod", .object [("def", .object
    [("type", .string "literal"), ("values", .array [.string importStatement])])])])]

/-- The import follows a header that almost ends in it, and stands in a schema once more. -/
theorem withoutHeader_recovers_between_imports :
    let settings : ModuleSettings := {}
    let header := "// import \x7b z \x7d from 'zod'"
    let bare := (settings.withHeader none).build (.ofVersion .v4) {} importing
    ¬importStatement.toList <:+: header.toList ∧
      bare.code = importStatement ++ "\n\nexport const Line = z.literal(\""
        ++ importStatement ++ "\");\n\n// Type exports\nexport type Line = z.infer<typeof Line>;" ∧
      withoutHeader ((settings.withHeader (some header)).build (.ofVersion .v4) {} importing).code =
        bare.code ∧
      ¬importStatement.toList <:+: (({} : Config).headerAt ⟨0, 0⟩).toList := by
  intro settings header bare
  have absent : ¬importStatement.toList <:+: header.toList := by
    intro inside
    have closed : ';' ∈ header.toList := inside.subset (by decide)
    exact absurd closed (by decide)
  refine ⟨absent, by decide +kernel, ?_, ?_⟩
  · exact (withoutHeader_recovers.1 settings (.ofVersion .v4) {} importing header).mpr absent
  · exact withoutHeader_recovers.2.1 {} ⟨0, 0⟩ rfl

end Module
end SchemaSource
