import Mathlib.Data.List.Forall2
import SchemaSource.Check
/-!
What a list of checks comes to. Each entry that states a constraint, in either layout, gives one
constraint at its place; other entries give none. A constraint has the kind that its entry names,
what the entry holds for it, and the flag of the entry unless the name of the check decides. No
entry can be read in two ways, so a constraint can be told from the entry alone.
-/
namespace SchemaSource

/-! ## Entries -/

/-- The entries of a definition's list of checks. -/
def Fields.checkEntries (definition : Fields) : List Value :=
  ((definition.get? "checks").bind Value.items?).getD []

theorem Fields.checks_eq (definition : Fields) :
    definition.checks = definition.checkEntries.filterMap Check.ofEntry? := by
  unfold Fields.checks Fields.checkEntries
  cases (definition.get? "checks").bind Value.items? <;> rfl

/-- The forms of an entry. A flat one names its kind, others nest a definition with the name of a
check, of which two leave the kind to a format. -/
inductive CheckForm where
  | flat (kind : String)
  | stringFormat
  | numberFormat
  | named (name : String)

def CheckForm.ofName : String → CheckForm
  | "string_format" => .stringFormat
  | "number_format" => .numberFormat
  | name => .named name

/-- An entry states a constraint of a form in some fields. One that names a kind is flat, whatever
it nests besides. -/
inductive Value.StatesCheck : Value → CheckForm → Fields → Prop
  | flat {fields : Fields} {kind : String} (own : fields.get? "kind" = some (.string kind)) :
      StatesCheck (.object fields) (.flat kind) fields
  | nested {fields inner definition : Fields} {name : String}
      (unflat : ∀ kind, fields.get? "kind" ≠ some (.string kind))
      (outer : fields.get? "_zod" = some (.object inner))
      (nested : inner.get? "def" = some (.object definition))
      (named : definition.get? "check" = some (.string name)) :
      StatesCheck (.object fields) (.ofName name) definition

/-- The entry states a constraint. -/
def Value.IsCheck (entry : Value) : Prop :=
  ∃ form fields, entry.StatesCheck form fields

namespace Check

theorem nested?_eq_some_iff {fields definition : Fields} {name : String} :
    nested? fields = some (name, definition) ↔
      ∃ inner : Fields, fields.get? "_zod" = some (.object inner) ∧
        inner.get? "def" = some (.object definition) ∧
        definition.get? "check" = some (.string name) := by
  have outer : nested? fields = some (name, definition) ↔
      ∃ value, fields.get? "_zod" = some value ∧
        value.get? "def" = some (.object definition) ∧
        definition.get? "check" = some (.string name) := by
    simp [nested?, Option.bind_eq_some_iff, Value.fields?_eq_some_iff, Fields.string?_eq_some_iff]
  rw [outer]
  constructor
  · rintro ⟨value, found, nested, named⟩
    cases value with
    | object inner => exact ⟨inner, found, nested, named⟩
    | _ => cases nested
  · rintro ⟨inner, found, nested, named⟩
    exact ⟨.object inner, found, nested, named⟩

theorem ofEntry?_object (fields : Fields) :
    ofEntry? (.object fields) =
      match fields.string? "kind" with
      | some kind => some (ofFlat kind fields)
      | none => (nested? fields).map fun (name, definition) => ofNamed name definition := by
  unfold ofEntry?
  simp only [Value.fields?, Option.bind_eq_bind, Option.bind_some]
  cases fields.string? "kind" with
  | some kind => rfl
  | none => cases nested? fields <;> rfl

theorem ofEntry?_flat {fields : Fields} {name : String}
    (named : fields.string? "kind" = some name) :
    ofEntry? (.object fields) = some (ofFlat name fields) := by
  rw [ofEntry?_object, named]

theorem ofEntry?_named {fields definition : Fields} {name : String}
    (unflat : fields.string? "kind" = none) (nested : nested? fields = some (name, definition)) :
    ofEntry? (.object fields) = some (ofNamed name definition) := by
  rw [ofEntry?_object, unflat, nested]
  rfl

theorem ofEntry?_of_shapeless {entry : Value}
    (shapeless : ∀ fields : Fields, entry = .object fields →
      fields.string? "kind" = none ∧ nested? fields = none) : ofEntry? entry = none := by
  cases entry with
  | object fields =>
    obtain ⟨unflat, unnested⟩ := shapeless fields rfl
    rw [ofEntry?_object, unflat, unnested]
    rfl
  | undefined | null | bool | number | bigint | string | date | regexp | array | function => rfl

end Check

/-! ## What an entry says -/

/-- What fields hold under the first of some keys that holds anything. -/
inductive Fields.HoldsFirst (fields : Fields) : List String → Option Value → Prop
  | nothing : HoldsFirst fields [] none
  | here {key : String} {keys : List String} {value : Value}
      (found : fields.get? key = some value) (something : value ≠ .undefined ∧ value ≠ .null) :
      HoldsFirst fields (key :: keys) (some value)
  | later {key : String} {keys : List String} {held : Option Value}
      (nothing : ∀ value, fields.get? key = some value → value = .undefined ∨ value = .null)
      (rest : HoldsFirst fields keys held) : HoldsFirst fields (key :: keys) held

/-- The keys under which an entry may hold the parts of its constraint, the first choice first. -/
structure CheckKeys where
  value : List String := []
  minimum : List String := []
  maximum : List String := []
  pattern : List String := []

def CheckForm.keys : CheckForm → CheckKeys
  | .flat _ =>
    { value := ["value"], minimum := ["value"], maximum := ["value"], pattern := ["regex"] }
  | .stringFormat => { value := ["prefix", "suffix", "includes"], pattern := ["pattern"] }
  | .numberFormat => {}
  | .named _ =>
    { value := ["value", "minimum", "maximum", "length", "size"]
      minimum := ["minimum"]
      maximum := ["maximum"]
      pattern := ["pattern"] }

/-- Names of checks that have a shared spelling, with that spelling. -/
def sharedCheckNames : List (String × String) :=
  [("min_length", "min"), ("min_size", "min"), ("greater_than", "min"),
    ("greater_than_or_equal", "min"), ("max_length", "max"), ("max_size", "max"),
    ("less_than", "max"), ("less_than_or_equal", "max"), ("length_equals", "length"),
    ("size_equals", "size"), ("to_lower_case", "toLowerCase"), ("to_upper_case", "toUpperCase"),
    ("starts_with", "startsWith"), ("ends_with", "endsWith"), ("multiple_of", "multipleOf"),
    ("pattern", "regex"), ("integer", "int")]

/-- The formats of strings that have one. -/
def sharedFormatNames : List (String × String) :=
  [("starts_with", "startsWith"), ("ends_with", "endsWith")]

/-- The formats of integers. A number without a format is one of them. -/
def integerFormatNames : List (String × String) :=
  [("int", "int"), ("safeint", "int"), ("integer", "int"), ("", "int")]

/-- How a name is spelled by a table. A name that the table does not know keeps its spelling. -/
inductive SpelledBy (table : List (String × String)) (name : String) : String → Prop
  | known {spelling : String} (known : (name, spelling) ∈ table) : SpelledBy table name spelling
  | unknown (unknown : name ∉ table.map (·.1)) : SpelledBy table name name

/-- The format that a definition names, or what stands for it where none is named. -/
inductive Fields.NamesFormat (definition : Fields) (otherwise : String) : String → Prop
  | named {format : String} (named : definition.get? "format" = some (.string format))
      (nonempty : format ≠ "") : NamesFormat definition otherwise format
  | unnamed
      (unnamed : ∀ format, definition.get? "format" = some (.string format) → format = "") :
      NamesFormat definition otherwise otherwise

/-- The kind that an entry names. -/
inductive CheckForm.Names (fields : Fields) : CheckForm → String → Prop
  | flat {kind : String} : Names fields (.flat kind) kind
  | stringFormat {format kind : String} (named : fields.NamesFormat "format" format)
      (spelled : SpelledBy sharedFormatNames format kind) : Names fields .stringFormat kind
  | numberFormat {format kind : String} (named : fields.NamesFormat "" format)
      (spelled : SpelledBy integerFormatNames format kind) : Names fields .numberFormat kind
  | named {name kind : String} (spelled : SpelledBy sharedCheckNames name kind) :
      Names fields (.named name) kind

def strictComparisons : List String := ["greater_than", "less_than"]

def inclusiveComparisons : List String := ["greater_than_or_equal", "less_than_or_equal"]

/-- A flag that fields hold, if they hold one. -/
def Fields.Flags (fields : Fields) (flag : Option Bool) : Prop :=
  ∀ b, flag = some b ↔ fields.get? "inclusive" = some (.bool b)

/-- Whether the bound itself is allowed, where the entry says so. The name of a comparison says it
whatever the flag, and formats have no bound. -/
inductive CheckForm.Allows (fields : Fields) : CheckForm → Option Bool → Prop
  | strict {name : String} (compares : name ∈ strictComparisons) :
      Allows fields (.named name) (some false)
  | inclusive {name : String} (compares : name ∈ inclusiveComparisons) :
      Allows fields (.named name) (some true)
  | stringFormat : Allows fields .stringFormat none
  | numberFormat : Allows fields .numberFormat none
  | named {name : String} {flag : Option Bool} (notStrict : name ∉ strictComparisons)
      (notInclusive : name ∉ inclusiveComparisons) (flags : fields.Flags flag) :
      Allows fields (.named name) flag
  | flat {kind : String} {flag : Option Bool} (flags : fields.Flags flag) :
      Allows fields (.flat kind) flag

/-- A constraint says what an entry of a form says. -/
structure CheckForm.Describes (form : CheckForm) (fields : Fields) (check : Check) : Prop where
  kind : form.Names fields check.kind
  value : fields.HoldsFirst form.keys.value check.value
  minimum : fields.HoldsFirst form.keys.minimum check.minimum
  maximum : fields.HoldsFirst form.keys.maximum check.maximum
  pattern : fields.HoldsFirst form.keys.pattern check.pattern
  inclusive : form.Allows fields check.inclusive

/-- A part of a constraint is left out or holds something. -/
def HoldsIfAny (part : Option Value) : Prop :=
  ∀ value, part = some value → value ≠ .undefined ∧ value ≠ .null

/-- A constraint agrees with itself: it holds nothing empty, and its bounds never stand in for a
missing value. -/
structure Check.IsConsistent (check : Check) : Prop where
  value : HoldsIfAny check.value
  minimum : HoldsIfAny check.minimum
  maximum : HoldsIfAny check.maximum
  pattern : HoldsIfAny check.pattern
  resolved : check.resolved = check.value
  valued : check.minimum.isSome ∨ check.maximum.isSome → check.value.isSome

namespace Fields

variable {fields : Fields}

theorem HoldsFirst.holdsIfAny {keys : List String} {held : Option Value}
    (holds : fields.HoldsFirst keys held) : HoldsIfAny held := by
  induction holds with
  | nothing => exact nofun
  | here found something =>
    rintro _ ⟨⟩
    exact something
  | later _ _ ih => exact ih

theorem HoldsFirst.eq_none {keys : List String} (holds : fields.HoldsFirst keys none) :
    ∀ key ∈ keys, ∀ value, fields.get? key = some value → value = .undefined ∨ value = .null := by
  generalize absent : none = held at holds
  induction holds with
  | nothing => exact nofun
  | here => cases absent
  | later nothing _ ih => exact List.forall_mem_cons.mpr ⟨nothing, ih absent⟩

/-- With more keys to look under, what was found is not lost. -/
theorem HoldsFirst.eq_none_of_subset {keys more : List String} {held : Option Value}
    (holds : fields.HoldsFirst keys held) (subset : keys ⊆ more)
    (absent : fields.HoldsFirst more none) : held = none := by
  induction holds with
  | nothing => rfl
  | @here key keys value found something =>
    have empty := absent.eq_none key (subset List.mem_cons_self) value found
    exact absurd empty (not_or.mpr something)
  | later _ _ ih => exact ih (List.subset_of_cons_subset subset)

theorem holdsFirst_firstHeld? (keys : List String) :
    fields.HoldsFirst keys (fields.firstHeld? keys) := by
  induction keys with
  | nil => exact .nothing
  | cons key keys ih =>
    rw [firstHeld?, List.findSome?_cons]
    cases held : fields.held? key with
    | some value =>
      obtain ⟨found, something⟩ := held?_eq_some_iff.mp held
      exact .here found something
    | none => exact .later (held?_eq_none_iff.mp held) ih

theorem holdsFirst_held? (key : String) : fields.HoldsFirst [key] (fields.held? key) := by
  have single : fields.firstHeld? [key] = fields.held? key := by
    rw [firstHeld?, List.findSome?_cons]
    cases fields.held? key <;> rfl
  exact single ▸ holdsFirst_firstHeld? [key]

theorem flags_bool? : fields.Flags (fields.bool? "inclusive") :=
  fun _ => Fields.bool?_eq_some_iff

end Fields

/-- Bounds are looked for under keys of values. -/
theorem CheckForm.bounds_subset_value (form : CheckForm) :
    form.keys.minimum ⊆ form.keys.value ∧ form.keys.maximum ⊆ form.keys.value := by
  cases form <;> simp [CheckForm.keys]

theorem CheckForm.Describes.isConsistent {form : CheckForm} {fields : Fields} {check : Check}
    (describes : form.Describes fields check) : check.IsConsistent := by
  obtain ⟨least, greatest⟩ := form.bounds_subset_value
  -- without a value there is no bound that could stand for it
  have bounds (missing : check.value = none) : check.minimum = none ∧ check.maximum = none := by
    have absent := missing ▸ describes.value
    exact ⟨describes.minimum.eq_none_of_subset least absent,
      describes.maximum.eq_none_of_subset greatest absent⟩
  refine ⟨describes.value.holdsIfAny, describes.minimum.holdsIfAny,
    describes.maximum.holdsIfAny, describes.pattern.holdsIfAny, ?_, ?_⟩
  · cases given : check.value with
    | none =>
      obtain ⟨noLeast, noGreatest⟩ := bounds given
      simp [Check.resolved, given, noLeast, noGreatest]
    | some value => simp [Check.resolved, given]
  · intro bounded
    rw [Option.isSome_iff_ne_none]
    intro missing
    obtain ⟨noLeast, noGreatest⟩ := bounds missing
    simp [noLeast, noGreatest] at bounded

/-! ## What the constraint of an entry says -/

namespace Check

theorem spelledBy_namedKind (name : String) : SpelledBy sharedCheckNames name (namedKind name) := by
  unfold namedKind
  -- the last case is of all names without a row in the table
  split
  case h_18 =>
    refine .unknown ?_
    simp only [sharedCheckNames, List.map_cons, List.map_nil, List.mem_cons, List.not_mem_nil,
      or_false, not_or]
    and_intros <;> assumption
  all_goals exact .known (by decide)

theorem spelledBy_sharedFormat (format : String) :
    SpelledBy sharedFormatNames format (sharedFormat format) := by
  unfold sharedFormat
  split
  · exact .known (by decide)
  · exact .known (by decide)
  · next notStart notEnd =>
    exact .unknown (by simpa [sharedFormatNames] using ⟨notStart, notEnd⟩)

theorem allows_namedInclusive (name : String) (definition : Fields) :
    CheckForm.Allows definition (.named name) (namedInclusive name definition) := by
  unfold namedInclusive
  split
  · exact .strict (by decide)
  · exact .strict (by decide)
  · exact .inclusive (by decide)
  · exact .inclusive (by decide)
  · next greater less greaterEqual lessEqual =>
    exact .named (by simpa [strictComparisons] using ⟨greater, less⟩)
      (by simpa [inclusiveComparisons] using ⟨greaterEqual, lessEqual⟩) Fields.flags_bool?

theorem namesFormat (definition : Fields) (otherwise : String) :
    definition.NamesFormat otherwise
      (((definition.string? "format").filter (!·.isEmpty)).getD otherwise) := by
  cases read : definition.string? "format" with
  | none =>
    exact .unnamed fun format found => absurd found (Fields.string?_eq_none_iff.mp read format)
  | some format =>
    have found := Fields.string?_eq_some_iff.mp read
    by_cases empty : format = ""
    · subst empty
      refine .unnamed fun other stored => ?_
      rw [found] at stored
      cases stored
      rfl
    · have chosen : (some format).filter (!·.isEmpty) = some format :=
        Option.filter_some_pos (by simpa using empty)
      rw [chosen]
      exact .named found empty

theorem describes_ofFlat (kind : String) (fields : Fields) :
    (CheckForm.flat kind).Describes fields (ofFlat kind fields) where
  kind := .flat
  value := Fields.holdsFirst_held? "value"
  minimum := Fields.holdsFirst_held? "value"
  maximum := Fields.holdsFirst_held? "value"
  pattern := Fields.holdsFirst_held? "regex"
  inclusive := .flat Fields.flags_bool?

theorem describes_ofStringFormat (definition : Fields) :
    CheckForm.stringFormat.Describes definition (ofStringFormat definition) where
  kind := .stringFormat (namesFormat definition "format") (spelledBy_sharedFormat _)
  value := Fields.holdsFirst_firstHeld? _
  minimum := .nothing
  maximum := .nothing
  pattern := Fields.holdsFirst_held? "pattern"
  inclusive := .stringFormat

/-- An empty format is as good as none. -/
theorem filter_getD_empty (format : Option String) :
    (format.filter (!·.isEmpty)).getD "" = format.getD "" := by
  cases format with
  | none => rfl
  | some format => by_cases empty : format = "" <;> simp [empty, Option.filter]

/-- A format of numbers is a kind and nothing else. -/
theorem exists_ofNumberFormat_eq (definition : Fields) :
    ∃ kind, ofNumberFormat definition = { kind } ∧
      SpelledBy integerFormatNames ((definition.string? "format").getD "") kind := by
  unfold ofNumberFormat
  generalize (definition.string? "format").getD "" = format
  split
  case h_5 other notInt notSafe notInteger notEmpty =>
    exact ⟨format, rfl, .unknown
      (by simpa [integerFormatNames] using ⟨notInt, notSafe, notInteger, notEmpty⟩)⟩
  all_goals exact ⟨"int", rfl, .known (by decide)⟩

theorem describes_ofNumberFormat (definition : Fields) :
    CheckForm.numberFormat.Describes definition (ofNumberFormat definition) := by
  obtain ⟨kind, same, spelled⟩ := exists_ofNumberFormat_eq definition
  have named := namesFormat definition ""
  rw [filter_getD_empty] at named
  rw [same]
  exact {
    kind := .numberFormat named spelled
    value := .nothing
    minimum := .nothing
    maximum := .nothing
    pattern := .nothing
    inclusive := .numberFormat }

theorem describes_ofNamed (name : String) (definition : Fields) :
    (CheckForm.ofName name).Describes definition (ofNamed name definition) := by
  unfold CheckForm.ofName
  split
  · exact describes_ofStringFormat definition
  · exact describes_ofNumberFormat definition
  · next notString notNumber =>
    rw [ofNamed]
    · exact {
        kind := .named (spelledBy_namedKind name)
        value := Fields.holdsFirst_firstHeld? _
        minimum := Fields.holdsFirst_held? "minimum"
        maximum := Fields.holdsFirst_held? "maximum"
        pattern := Fields.holdsFirst_held? "pattern"
        inclusive := allows_namedInclusive name definition }
    · exact notString
    · exact notNumber

theorem ofEntry?_of_statesCheck {entry : Value} {form : CheckForm} {fields : Fields}
    (states : entry.StatesCheck form fields) :
    ∃ check, ofEntry? entry = some check ∧ form.Describes fields check := by
  cases states with
  | flat own =>
    exact ⟨_, ofEntry?_flat (Fields.string?_eq_some_iff.mpr own), describes_ofFlat _ _⟩
  | nested unflat outer nested named =>
    have bare := Fields.string?_eq_none_iff.mpr unflat
    have inside := nested?_eq_some_iff.mpr ⟨_, outer, nested, named⟩
    exact ⟨_, ofEntry?_named bare inside, describes_ofNamed _ _⟩

theorem describes_of_statesCheck {entry : Value} {form : CheckForm} {fields : Fields}
    (states : entry.StatesCheck form fields) {check : Check} (read : ofEntry? entry = some check) :
    form.Describes fields check := by
  obtain ⟨check', read', describes⟩ := ofEntry?_of_statesCheck states
  obtain rfl := Option.some.inj (read.symm.trans read')
  exact describes

theorem ofEntry?_of_not_isCheck {entry : Value} (silent : ¬entry.IsCheck) :
    ofEntry? entry = none := by
  refine ofEntry?_of_shapeless ?_
  rintro fields rfl
  have unflat : fields.string? "kind" = none := by
    rw [Fields.string?_eq_none_iff]
    exact fun kind own => silent ⟨_, _, .flat own⟩
  refine ⟨unflat, Option.eq_none_iff_forall_ne_some.mpr ?_⟩
  rintro ⟨name, definition⟩ found
  obtain ⟨inner, outer, nested, named⟩ := nested?_eq_some_iff.mp found
  exact silent ⟨_, _, .nested (Fields.string?_eq_none_iff.mp unflat) outer nested named⟩

theorem isSome_ofEntry?_iff {entry : Value} :
    (Check.ofEntry? entry).isSome = true ↔ entry.IsCheck := by
  constructor
  · intro found
    by_contra silent
    rw [ofEntry?_of_not_isCheck silent] at found
    cases found
  · rintro ⟨form, fields, states⟩
    obtain ⟨check, read, -⟩ := ofEntry?_of_statesCheck states
    rw [read]
    rfl

end Check

instance (entry : Value) : Decidable entry.IsCheck :=
  decidable_of_iff _ Check.isSome_ofEntry?_iff

/-- What the entries of a definition's checks state, one by one. Entries that state no constraint
are left out. -/
def Fields.ChecksState {α : Type} (definition : Fields) (R : Value → α → Prop)
    (stated : List α) : Prop :=
  List.Forall₂ R (definition.checkEntries.filter fun entry => entry.IsCheck) stated

theorem Fields.checksState_iff {α : Type} {R : Value → α → Prop} {P : Check → α → Prop}
    (each : ∀ {entry a}, R entry a ↔ ∃ check, Check.ofEntry? entry = some check ∧ P check a)
    {definition : Fields} {stated : List α} :
    definition.ChecksState R stated ↔ List.Forall₂ P definition.checks stated := by
  rw [Fields.checks_eq, ChecksState]
  induction definition.checkEntries generalizing stated with
  | nil => simp
  | cons entry entries ih =>
    by_cases states : entry.IsCheck
    · obtain ⟨check, read⟩ := Option.isSome_iff_exists.mp (Check.isSome_ofEntry?_iff.mpr states)
      have here (a : α) : R entry a ↔ P check a := by simp [each, read]
      rw [List.filter_cons_of_pos (by simpa using states), List.filterMap_cons_some read]
      simp only [List.forall₂_cons_left_iff, here, ih]
    · rw [List.filter_cons_of_neg (by simpa using states),
        List.filterMap_cons_none (Check.ofEntry?_of_not_isCheck states)]
      exact ih

/-- **Constraints are kept as they are stated.** A definition comes to one constraint for each entry
of its checks that states one, in the order of the entries, and to none for any other entry. It says
what the entry says and agrees with itself. -/
theorem Fields.checks_describe_entries (definition : Fields) :
    List.Forall₂ (fun entry check => check.IsConsistent ∧
        ∃ form fields, entry.StatesCheck form fields ∧ form.Describes fields check)
      (definition.checkEntries.filter fun entry => entry.IsCheck) definition.checks := by
  have read : definition.ChecksState (fun entry check => Check.ofEntry? entry = some check)
      definition.checks :=
    (Fields.checksState_iff (P := Eq) (by simp)).mpr (List.forall₂_refl _)
  refine read.imp fun entry check read => ?_
  obtain ⟨form, fields, states⟩ := Check.isSome_ofEntry?_iff.mp (Option.isSome_of_eq_some read)
  have describes := Check.describes_of_statesCheck states read
  exact ⟨describes.isConsistent, form, fields, states, describes⟩

/-- An entry of both layouts is a flat one, a comparison overrules its flag, and what states nothing
leaves no trace. -/
example :
    let flag := ("inclusive", Value.bool true)
    let nested (fields : Fields) := ("_zod", Value.object [("def", .object fields)])
    let entries := [
      .object [("kind", .string "later"), flag, nested [("check", .string "less_than")]], .null,
      .object [nested [("check", .string "less_than"), flag]], .object [("kind", .null)],
      .object [("kind", .null), nested [("check", .string "overwrite"), flag]]]
    (Fields.checks [("checks", .array entries)]).map (fun check => (check.kind, check.inclusive)) =
      [("later", some true), ("max", some false), ("overwrite", some true)] := rfl

/-! ## One reading of an entry -/

/-- A table that lists no name twice spells a name in one way. -/
theorem SpelledBy.unique {table : List (String × String)} {name spelling other : String}
    (distinct : ∀ row ∈ table, ∀ row' ∈ table, row.1 = row'.1 → row = row')
    (spelled : SpelledBy table name spelling) (again : SpelledBy table name other) :
    spelling = other := by
  cases spelled with
  | known row =>
    cases again with
    | known row' => exact congrArg Prod.snd (distinct _ row _ row' rfl)
    | unknown unknown => exact absurd (List.mem_map_of_mem row) unknown
  | unknown unknown =>
    cases again with
    | known row => exact absurd (List.mem_map_of_mem row) unknown
    | unknown => rfl

namespace Fields

variable {fields : Fields}

theorem NamesFormat.unique {otherwise format other : String}
    (names : fields.NamesFormat otherwise format) (again : fields.NamesFormat otherwise other) :
    format = other := by
  cases names with
  | named named nonempty =>
    cases again with
    | named named' =>
      rw [named] at named'
      cases named'
      rfl
    | unnamed unnamed => exact absurd (unnamed _ named) nonempty
  | unnamed unnamed =>
    cases again with
    | named named nonempty => exact absurd (unnamed _ named) nonempty
    | unnamed => rfl

theorem HoldsFirst.unique {keys : List String} {held other : Option Value}
    (holds : fields.HoldsFirst keys held) (again : fields.HoldsFirst keys other) :
    held = other := by
  induction holds with
  | nothing =>
    cases again
    rfl
  | here found something =>
    cases again with
    | here found' =>
      rw [found] at found'
      exact found'
    | later nothing => exact absurd (nothing _ found) (not_or.mpr something)
  | later nothing _ ih =>
    cases again with
    | here found something => exact absurd (nothing _ found) (not_or.mpr something)
    | later _ rest => exact ih rest

theorem Flags.unique {flag other : Option Bool} (flags : fields.Flags flag)
    (again : fields.Flags other) : flag = other :=
  Option.ext fun b => (flags b).trans (again b).symm

end Fields

namespace CheckForm

variable {form : CheckForm} {fields : Fields}

theorem Names.unique {kind other : String} (names : form.Names fields kind)
    (again : form.Names fields other) : kind = other := by
  cases names with
  | flat =>
    cases again
    rfl
  | stringFormat named spelled =>
    cases again with
    | stringFormat named' spelled' =>
      rw [named.unique named'] at spelled
      exact spelled.unique (by decide) spelled'
  | numberFormat named spelled =>
    cases again with
    | numberFormat named' spelled' =>
      rw [named.unique named'] at spelled
      exact spelled.unique (by decide) spelled'
  | named spelled =>
    cases again with
    | named spelled' => exact spelled.unique (by decide) spelled'

theorem Allows.unique {allowed other : Option Bool} (allows : form.Allows fields allowed)
    (again : form.Allows fields other) : allowed = other := by
  have apart : ∀ name ∈ strictComparisons, name ∉ inclusiveComparisons := by decide
  cases allows with
  | strict compares =>
    cases again with
    | strict => rfl
    | inclusive compares' => exact absurd compares' (apart _ compares)
    | named notStrict => exact absurd compares notStrict
  | inclusive compares =>
    cases again with
    | strict compares' => exact absurd compares (apart _ compares')
    | inclusive => rfl
    | named _ notInclusive => exact absurd compares notInclusive
  | stringFormat | numberFormat =>
    cases again
    rfl
  | named notStrict notInclusive flags =>
    cases again with
    | strict compares => exact absurd compares notStrict
    | inclusive compares => exact absurd compares notInclusive
    | named _ _ flags' => exact flags.unique flags'
  | flat flags =>
    cases again with
    | flat flags' => exact flags.unique flags'

end CheckForm

/-- An entry states a constraint of a kind. It holds a value for it, if any, and may say whether the
value itself is allowed. -/
def Value.States (entry : Value) (kind : String) (value : Option Value)
    (allowed : Option Bool) : Prop :=
  ∃ form fields, entry.StatesCheck form fields ∧ form.Names fields kind ∧
    fields.HoldsFirst form.keys.value value ∧ form.Allows fields allowed

theorem Value.states_iff {entry : Value} {kind : String} {value : Option Value}
    {allowed : Option Bool} : entry.States kind value allowed ↔ ∃ check,
      Check.ofEntry? entry = some check ∧ check.kind = kind ∧ check.resolved = value ∧
        check.inclusive = allowed := by
  constructor
  · rintro ⟨form, fields, states, names, holds, allows⟩
    obtain ⟨check, read, describes⟩ := Check.ofEntry?_of_statesCheck states
    exact ⟨check, read, describes.kind.unique names,
      describes.isConsistent.resolved.trans (describes.value.unique holds),
      describes.inclusive.unique allows⟩
  · rintro ⟨check, read, rfl, rfl, rfl⟩
    obtain ⟨form, fields, states⟩ := Check.isSome_ofEntry?_iff.mp (Option.isSome_of_eq_some read)
    have describes := Check.describes_of_statesCheck states read
    rw [describes.isConsistent.resolved]
    exact ⟨form, fields, states, describes.kind, describes.value, describes.inclusive⟩

end SchemaSource
