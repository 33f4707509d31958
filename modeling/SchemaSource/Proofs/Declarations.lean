import SchemaSource.Proofs.ModuleText
import SchemaSource.Proofs.ScriptReading
/-!
What the statements of a module declare. Each exports a constant or a type under a name that the
module was given, and stands in the text as it is. A reader of ECMAScript takes the longest name it
finds there and refuses the words that bind nothing, so a statement declares the name it was made
for where that is a name at all, and otherwise another one or none.
-/
namespace SchemaSource

/-! ## Names -/

/-- The letters of names. Those of ASCII are settled; beyond it, the tables of Unicode decide. No
blank is part of a name. -/
structure NameAlphabet where
  starts : Char → Bool
  continues : Char → Bool
  continues_of_starts (c : Char) : starts c = true → continues c = true
  starts_ascii (c : Char) : c.toNat < 128 → starts c = isNameStart c
  continues_ascii (c : Char) : c.toNat < 128 → continues c = Script.isNamePart c
  not_blank (c : Char) : continues c = true → Script.isBlank c = false

/-- Words that no declaration binds in the code of a module. -/
def unbindableWords : List String := Script.reservedWords ++ ["arguments", "eval"]

/-- What a module exports under a name. -/
inductive ExportKind where
  | constant
  | type
  deriving DecidableEq, Repr

namespace ExportKind

def keyword : ExportKind → String
  | .constant => "const"
  | .type => "type"

def ofKeyword? : String → Option ExportKind
  | "const" => some .constant
  | "type" => some .type
  | _ => none

@[simp] theorem ofKeyword?_keyword (kind : ExportKind) : ofKeyword? kind.keyword = some kind := by
  cases kind <;> rfl

end ExportKind

namespace NameAlphabet

variable (alphabet : NameAlphabet)

/-- A first letter, and letters or digits after it. Escapes are no letters: a name that is spelled
with them would declare another one. -/
def isWord (name : String) : Bool :=
  match name.toList with
  | [] => false
  | c :: rest => alphabet.starts c && rest.all alphabet.continues

/-- A name that a declaration can bind. -/
def isBindingName (name : String) : Bool :=
  alphabet.isWord name && !unbindableWords.contains name

/-- The longest name at the start of a text, blanks before it aside, and the text after it. -/
def name? (text : List Char) : Option (String × List Char) :=
  let text := text.dropWhile Script.isBlank
  let name := String.ofList (text.takeWhile alphabet.continues)
  if alphabet.isWord name then some (name, text.dropWhile alphabet.continues) else none

/-- The text after a word, where the word stands first. -/
def word? (word : String) (text : List Char) : Option (List Char) :=
  (alphabet.name? text).bind fun (name, rest) => if name = word then some rest else none

/-- What the text of a module declares at its start: all is read up to the equality sign. -/
def declared? (text : List Char) : Option (ExportKind × String) := do
  let text ← alphabet.word? "export" text
  let (keyword, text) ← alphabet.name? text
  let kind ← ExportKind.ofKeyword? keyword
  let (name, text) ← alphabet.name? text
  if alphabet.isBindingName name ∧ (text.dropWhile Script.isBlank).head? = some '=' then
    some (kind, name)
  else none

/-! ## Reading names -/

/-- The words of ASCII are the names that an object literal leaves without quotes. -/
theorem isWord_of_ascii {name : String} (ascii : name.toList.all (·.toNat < 128) = true) :
    alphabet.isWord name = isBareName name := by
  unfold isWord isBareName
  cases spelled : name.toList with
  | nil => rfl
  | cons c rest =>
    simp only [spelled, List.all_cons, Bool.and_eq_true, List.all_eq_true, decide_eq_true_eq]
      at ascii
    obtain ⟨first, others⟩ := ascii
    have later : rest.all alphabet.continues = rest.all Script.isNamePart := by
      rw [Bool.eq_iff_iff, List.all_eq_true, List.all_eq_true]
      refine forall₂_congr fun d member => ?_
      rw [alphabet.continues_ascii d (others d member)]
    simp only [alphabet.starts_ascii c first, later]
    rfl

theorem continues_of_isWord {name : String} (word : alphabet.isWord name = true) :
    ∀ c ∈ name.toList, alphabet.continues c = true := by
  unfold isWord at word
  cases spelled : name.toList with
  | nil => simp
  | cons first rest =>
    simp only [spelled, Bool.and_eq_true, List.all_eq_true] at word
    rw [List.forall_mem_cons]
    exact ⟨alphabet.continues_of_starts first word.1, word.2⟩

theorem name?_space (text : List Char) : alphabet.name? (' ' :: text) = alphabet.name? text := by
  have blank : Script.isBlank ' ' = true := by decide
  simp only [name?, List.dropWhile_cons_of_pos blank]

/-- A word is read whole, since no space continues it. -/
theorem name?_append {name : String} (word : alphabet.isWord name = true) (rest : List Char) :
    alphabet.name? (name.toList ++ ' ' :: rest) = some (name, ' ' :: rest) := by
  have letters := alphabet.continues_of_isWord word
  have found : (name.toList ++ ' ' :: rest).dropWhile Script.isBlank =
      name.toList ++ ' ' :: rest := by
    cases spelled : name.toList with
    | nil => simp [isWord, spelled] at word
    | cons c later =>
      have first := alphabet.not_blank c (letters c (by simp [spelled]))
      simp [first]
  have space : alphabet.continues ' ' = false :=
    (alphabet.continues_ascii ' ' (by decide)).trans (by decide)
  have taken : (name.toList ++ ' ' :: rest).takeWhile alphabet.continues = name.toList := by
    rw [List.takeWhile_append_of_pos letters]
    simp [space]
  have left : (name.toList ++ ' ' :: rest).dropWhile alphabet.continues = ' ' :: rest := by
    rw [List.dropWhile_append_of_pos letters]
    simp [space]
  simp only [name?, found, taken, left, String.ofList_toList, word, ↓reduceIte]

/-- The letters of ASCII alone. -/
def ascii : NameAlphabet where
  starts := isNameStart
  continues := Script.isNamePart
  continues_of_starts c first := by simp [Script.isNamePart, first]
  starts_ascii _ _ := rfl
  continues_ascii _ _ := rfl
  not_blank c part :=
    have ⟨printed, ascii⟩ := Script.ascii_of_isNamePart part
    Script.isBlank_of_ascii printed ascii

end NameAlphabet

/-! ## Statements -/

/-- An exported constant or type. -/
structure Declaration where
  kind : ExportKind
  name : String
  /-- All that stands after the equality sign. -/
  definition : String
  deriving DecidableEq, Repr

def Declaration.text (d : Declaration) : String :=
  "export " ++ d.kind.keyword ++ " " ++ d.name ++ " = " ++ d.definition

theorem Declaration.toList_text (d : Declaration) :
    d.text.toList = "export".toList ++ ' ' :: (d.kind.keyword.toList ++ ' ' ::
      (d.name.toList ++ ' ' :: '=' :: ' ' :: d.definition.toList)) := by
  simp [text]

namespace NameAlphabet

variable (alphabet : NameAlphabet)

theorem isBindingName_of_declared? {text : List Char} {kind : ExportKind} {name : String}
    (read : alphabet.declared? text = some (kind, name)) : alphabet.isBindingName name = true := by
  simp only [declared?, Option.bind_eq_bind, Option.bind_eq_some_iff, Option.ite_none_right_eq_some,
    Option.some.injEq, Prod.mk.injEq] at read
  obtain ⟨_, _, _, _, _, _, _, _, ⟨binds, _⟩, _, rfl⟩ := read
  exact binds

theorem isWord_keyword (kind : ExportKind) : alphabet.isWord kind.keyword = true := by
  cases kind <;> exact (alphabet.isWord_of_ascii (by decide)).trans (by decide)

/-- **A statement declares its name where that can be bound**, whatever is defined and whatever
follows, and no other statement does. -/
theorem declared?_text (d : Declaration) (rest : List Char) :
    alphabet.declared? (d.text.toList ++ rest) = some (d.kind, d.name) ↔
      alphabet.isBindingName d.name = true := by
  refine ⟨alphabet.isBindingName_of_declared?, fun binds => ?_⟩
  have name : alphabet.isWord d.name = true := by
    rw [isBindingName, Bool.and_eq_true] at binds
    exact binds.1
  have opener : alphabet.isWord "export" = true :=
    (alphabet.isWord_of_ascii (by decide)).trans (by decide)
  have keyword := alphabet.isWord_keyword d.kind
  have equality (text : List Char) :
      ((' ' :: '=' :: text).dropWhile Script.isBlank).head? = some '=' := by
    have blanks : Script.isBlank ' ' = true ∧ Script.isBlank '=' = false := by decide
    simp [blanks]
  simp only [Declaration.toList_text, List.append_assoc, List.cons_append, declared?, word?,
    alphabet.name?_space, alphabet.name?_append opener, alphabet.name?_append keyword,
    alphabet.name?_append name, ExportKind.ofKeyword?_keyword, Option.bind_eq_bind,
    Option.bind_some, equality, binds, and_self, ↓reduceIte]

end NameAlphabet

/-! ## Modules -/

namespace Module

/-- The constant of an entry. -/
def constant? (name : String) : Disposition → Option Declaration
  | .exported text => some ⟨.constant, name, text ++ ";"⟩
  | .failed _ => some ⟨.constant, name, "z.any(); // Serialization failed"⟩
  | .skipped | .filtered => none

def constants (m : Module) : List Declaration :=
  m.entries.filterMap fun entry => constant? entry.1 entry.2

def types (m : Module) : List Declaration :=
  if m.includeTypes then
    m.exported.map fun name => ⟨.type, name, "z.infer<typeof " ++ name ++ ">;"⟩
  else []

/-- The section of types, where there are any. -/
def typeSection (types : List Declaration) : String :=
  if types.isEmpty then ""
  else "\n// Type exports" ++ String.join (types.map fun d => "\n" ++ d.text)

theorem statement?_eq (name : String) (fate : Disposition) :
    statement? name fate = (constant? name fate).map Declaration.text := by
  cases fate with
  | skipped | filtered => rfl
  | exported text | failed error =>
    refine congrArg some (String.toList_injective ?_)
    simp [Declaration.text, ExportKind.keyword]

theorem typeLine_eq (name : String) :
    typeLine name = Declaration.text ⟨.type, name, "z.infer<typeof " ++ name ++ ">;"⟩ := by
  refine String.toList_injective ?_
  simp [typeLine, Declaration.text, ExportKind.keyword]

theorem entryTexts_eq (m : Module) :
    String.join (m.entries.map fun entry => entryText entry.1 entry.2) =
      String.join (m.constants.map fun d => "\n" ++ d.text ++ "\n") := by
  unfold constants
  induction m.entries with
  | nil => rfl
  | cons entry rest ih =>
    rw [List.map_cons, String.join_cons, ih, entryText, statement?_eq, List.filterMap_cons]
    cases constant? entry.1 entry.2 with
    | none => simp
    | some d => simp

theorem typesText_eq (m : Module) :
    typesText m.includeTypes m.exported = typeSection m.types := by
  unfold typesText typeSection types
  cases m.includeTypes <;> simp [Function.comp_def, typeLine_eq]

/-- The text of a module is made of its declarations. -/
theorem code_eq_declarations (m : Module) :
    m.code = opening m.header
      ++ String.join (m.constants.map fun d => "\n" ++ d.text ++ "\n")
      ++ typeSection m.types := by
  rw [code_eq, entryTexts_eq, typesText_eq]

/-- A type has the name of a constant. -/
theorem name_mem_of_mem_types (m : Module) :
    ∀ d ∈ m.types, d.name ∈ m.constants.map (·.name) := by
  unfold types
  intro d member
  split at member
  · obtain ⟨name, listed, rfl⟩ := List.mem_map.mp member
    simp only [exported, namesOf, List.mem_map, List.mem_filter] at listed
    obtain ⟨⟨_, fate⟩, ⟨inside, isExported⟩, rfl⟩ := listed
    cases fate with
    | exported text => exact List.mem_map.mpr ⟨_, List.mem_filterMap.mpr ⟨_, inside, rfl⟩, rfl⟩
    | skipped | filtered | failed => cases isExported
  · cases member

end Module

namespace ModuleSettings

variable (settings : ModuleSettings) (renderer : Renderer) (options : Options)

/-- A named value that the module has a constant for. -/
def keeps (name : String) (value : Value) : Bool :=
  renderer.dialect.recognizes value && settings.wants name value

theorem constant?_dispose (name : String) (value : Value) :
    (Module.constant? name (settings.dispose renderer options name value)).map (·.name) =
      if settings.keeps renderer name value then some name else none := by
  unfold dispose keeps
  cases renderer.dialect.recognizes value with
  | false => rfl
  | true =>
    cases settings.wants name value with
    | false => rfl
    | true => cases renderer.render options value <;> rfl

theorem names_constants (values : Fields) :
    (settings.build renderer options values).constants.map (·.name) =
      values.namesWhere (settings.keeps renderer) := by
  simp only [Module.constants, build, List.filterMap_map, List.map_filterMap, Fields.namesWhere,
    Fields.keys, Function.comp_def, constant?_dispose]
  induction values with
  | nil => rfl
  | cons entry rest ih =>
    rw [List.filterMap_cons, List.filter_cons, ih]
    cases settings.keeps renderer entry.1 entry.2 <;> rfl

theorem name_mem_constants_iff (values : Fields) (name : String) :
    name ∈ (settings.build renderer options values).constants.map (·.name) ↔
      ∃ value, (name, value) ∈ values ∧ settings.keeps renderer name value = true := by
  simp [names_constants, Fields.namesWhere, Fields.keys]

/-- Declarations have the names of the schemas that are kept, and no others. -/
theorem name_mem_declarations_iff (values : Fields) (name : String) :
    let m := settings.build renderer options values
    name ∈ (m.constants ++ m.types).map (·.name) ↔
      ∃ value, (name, value) ∈ values ∧ settings.keeps renderer name value = true := by
  intro m
  rw [← settings.name_mem_constants_iff renderer options values name, List.map_append,
    List.mem_append]
  constructor
  · rintro (constant | type)
    · exact constant
    · obtain ⟨d, inside, rfl⟩ := List.mem_map.mp type
      exact m.name_mem_of_mem_types d inside
  · exact .inl

theorem nodup_names_constants {values : Fields} (distinct : values.keys.Nodup) :
    ((settings.build renderer options values).constants.map (·.name)).Nodup := by
  rw [names_constants]
  exact distinct.sublist (List.filter_sublist.map _)

/-- **What the statements of a module declare.** The text of a module is that of its constants and
types, and names stand there as they were given. So each of them is read as declaring its name
exactly if that is a name that can be bound, and all are exactly if the schemas that are kept have
such names. Constants are told apart as the values were; only `z` names the import too. -/
theorem declares_iff (alphabet : NameAlphabet) (values : Fields) :
    let m := settings.build renderer options values
    m.code = Module.opening settings.header
      ++ String.join (m.constants.map fun d => "\n" ++ d.text ++ "\n")
      ++ Module.typeSection m.types ∧
    (∀ d ∈ m.constants ++ m.types, ∀ rest : List Char,
      alphabet.declared? (d.text.toList ++ rest) = some (d.kind, d.name) ↔
        alphabet.isBindingName d.name = true) ∧
    ((∀ d ∈ m.constants ++ m.types, ∀ rest : List Char,
        alphabet.declared? (d.text.toList ++ rest) = some (d.kind, d.name)) ↔
      ∀ name value, (name, value) ∈ values → settings.keeps renderer name value = true →
        alphabet.isBindingName name = true) ∧
    (values.keys.Nodup → (("z" :: m.constants.map (·.name)).Nodup ↔
      ∀ value, ("z", value) ∈ values → settings.keeps renderer "z" value = false)) := by
  intro m
  have named := settings.name_mem_declarations_iff renderer options values
  refine ⟨m.code_eq_declarations, fun d _ rest => alphabet.declared?_text d rest, ?_,
    fun distinct => ?_⟩
  · simp only [alphabet.declared?_text, forall_const]
    constructor
    · intro all name value member keeps
      obtain ⟨d, inside, rfl⟩ := List.mem_map.mp ((named name).mpr ⟨value, member, keeps⟩)
      exact all d inside
    · intro all d inside
      obtain ⟨value, member, keeps⟩ := (named d.name).mp (List.mem_map_of_mem inside)
      exact all d.name value member keeps
  · have told := settings.nodup_names_constants renderer options distinct
    rw [List.nodup_cons, name_mem_constants_iff]
    simp [m, told]

/-- Three schemas, two of them under names that nothing can be declared by. -/
def misnamed : Fields := stringSchemas ["default", "my-schema", "Name"]

theorem declares_iff_misnamed :
    let m := bare.build (.ofVersion .v4) {} misnamed
    m.constants.map (·.text) =
      ["export const default = z.string();", "export const my-schema = z.string();",
        "export const Name = z.string();"] ∧
    ¬(∀ d ∈ m.constants ++ m.types, ∀ rest : List Char,
      NameAlphabet.ascii.declared? (d.text.toList ++ rest) = some (d.kind, d.name)) ∧
    ("z" :: m.constants.map (·.name)).Nodup := by
  have all := bare.declares_iff (.ofVersion .v4) {} .ascii misnamed
  refine ⟨by decide +kernel, fun declared => ?_, (all.2.2.2 (by decide)).mpr ?_⟩
  · exact absurd (all.2.2.1.mp declared "default" _ List.mem_cons_self (by decide)) (by decide)
  · simp [misnamed, stringSchemas]

end ModuleSettings
end SchemaSource
