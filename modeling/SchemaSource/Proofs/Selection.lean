import Mathlib.Data.List.Forall2
import Mathlib.Data.Set.Defs
import SchemaSource.Generation
import SchemaSource.Proofs.Faults
import SchemaSource.Proofs.ModuleText
/-!
Which values a run exports. The patterns of a configuration and of a command line add up, and it
matters only which patterns there are: not which of the two has them, in what order, or how often.
The first that is no pattern is reported, and then there is no module.
-/
namespace SchemaSource

/-! ## Patterns -/

namespace PatternCompiler

variable (compile : PatternCompiler)

/-- What is wrong with a text as a pattern. -/
def fault? (pattern : String) : Option PatternFault :=
  (faultIn (compile pattern)).map fun fault => ⟨pattern, fault⟩

/-- The text is a pattern, and stands for the name. -/
def Covers (pattern name : String) : Prop :=
  ∃ names, compile pattern = .ok names ∧ names name = true

variable {compile}

theorem fault?_eq_some_iff {pattern : String} {fault : PatternFault} :
    compile.fault? pattern = some fault ↔
      fault.pattern = pattern ∧ compile pattern = .error fault.fault := by
  rw [fault?, Option.map_eq_some_iff, eq_error_iff]
  constructor
  · rintro ⟨wrong, found, rfl⟩
    exact ⟨rfl, found⟩
  · rintro ⟨rfl, found⟩
    exact ⟨fault.fault, found, rfl⟩

theorem fault?_eq_none_iff {pattern : String} :
    compile.fault? pattern = none ↔ ∃ names, compile pattern = .ok names := by
  unfold fault?
  cases compile pattern <;> simp [faultIn]

end PatternCompiler

/-- The names that sets of patterns let pass: public names, if the rules ask for them, that no
pattern excludes and, where there are patterns to include, one of these covers. -/
structure Selects (compile : PatternCompiler) (defaultRules : Bool) (included excluded : Set String)
    (name : String) : Prop where
  isPublic : defaultRules = true → isPublicName name = true
  notExcluded : ∀ pattern ∈ excluded, ¬compile.Covers pattern name
  isIncluded : (∀ pattern, pattern ∉ included) ∨ ∃ pattern ∈ included, compile.Covers pattern name

/-- Excluding more lets no more names pass. -/
theorem Selects.of_subset {compile : PatternCompiler} {defaultRules : Bool}
    {included excluded fewer : Set String} {name : String} (fewerExcluded : fewer ⊆ excluded)
    (selects : Selects compile defaultRules included excluded name) :
    Selects compile defaultRules included fewer name where
  isPublic := selects.isPublic
  notExcluded pattern member := selects.notExcluded pattern (fewerExcluded member)
  isIncluded := selects.isIncluded

namespace NameSelection

variable {compile : PatternCompiler} {patterns : List String} {meanings : List (String → Bool)}
  {settings : SelectionSettings} {filter : NameSelection}

theorem faultIn_compileAll (compile : PatternCompiler) (patterns : List String) :
    faultIn (compileAll compile patterns) = patterns.findSome? compile.fault? := by
  induction patterns with
  | nil => rfl
  | cons pattern rest ih =>
    rw [compileAll, List.findSome?_cons, PatternCompiler.fault?]
    cases compile pattern with
    | error fault => rfl
    | ok names => exact (faultIn_map _ _).trans ih

theorem meanings_of_compileAll (compiled : compileAll compile patterns = .ok meanings) :
    List.Forall₂ (fun pattern names => compile pattern = .ok names) patterns meanings := by
  induction patterns generalizing meanings with
  | nil =>
    cases compiled
    exact .nil
  | cons pattern rest ih =>
    rw [compileAll] at compiled
    cases meaning : compile pattern with
    | error fault =>
      rw [meaning] at compiled
      cases compiled
    | ok names =>
      rw [meaning] at compiled
      obtain ⟨others, later, made⟩ := bind_eq_ok_iff.mp compiled
      cases made
      exact .cons meaning (ih later)

theorem any_meanings_iff
    (meant : List.Forall₂ (fun pattern names => compile pattern = .ok names) patterns meanings)
    (name : String) :
    meanings.any (· name) = true ↔ ∃ pattern ∈ patterns, compile.Covers pattern name := by
  induction meant with
  | nil => simp
  | cons meaning _ ih =>
    rw [List.any_cons, Bool.or_eq_true, ih, List.exists_mem_cons_iff]
    simp [PatternCompiler.Covers, meaning]

theorem faultIn_ofSettings (compile : PatternCompiler) (settings : SelectionSettings) :
    faultIn (ofSettings compile settings) =
      (settings.included ++ settings.excluded).findSome? compile.fault? := by
  have later (included : List (String → Bool)) :
      faultIn (do
        let excluded ← compileAll compile settings.excluded
        return NameSelection.mk settings.defaultRules included excluded) =
          settings.excluded.findSome? compile.fault? :=
    (faultIn_map _ _).trans (faultIn_compileAll compile settings.excluded)
  rw [ofSettings, faultIn_bind later, faultIn_compileAll, List.findSome?_append]

/-- What a filter accepts is what the sets of its patterns let pass. -/
theorem accepts_iff (compiled : ofSettings compile settings = .ok filter) (name : String) :
    filter.accepts name = true ↔
      Selects compile settings.defaultRules {p | p ∈ settings.included}
        {p | p ∈ settings.excluded} name := by
  obtain ⟨included, first, compiled⟩ := bind_eq_ok_iff.mp compiled
  obtain ⟨excluded, second, made⟩ := bind_eq_ok_iff.mp compiled
  cases made
  have inside := any_meanings_iff (meanings_of_compileAll first) name
  have outside := any_meanings_iff (meanings_of_compileAll second) name
  have empty : included = [] ↔ settings.included = [] := by
    rw [← List.length_eq_zero_iff, ← List.length_eq_zero_iff,
      (meanings_of_compileAll first).length_eq]
  simp only [accepts, Bool.and_eq_true, Bool.or_eq_true, Bool.not_eq_true', List.isEmpty_iff,
    ← Bool.not_eq_true, inside, outside, empty]
  constructor
  · rintro ⟨⟨rules, notExcluded⟩, isIncluded⟩
    exact ⟨fun asked => rules.resolve_left (not_not_intro asked),
      fun pattern member covers => notExcluded ⟨pattern, member, covers⟩,
      isIncluded.imp_left List.eq_nil_iff_forall_not_mem.mp⟩
  · rintro ⟨rules, notExcluded, isIncluded⟩
    refine ⟨⟨?_, fun ⟨pattern, member, covers⟩ => notExcluded pattern member covers⟩, ?_⟩
    · by_cases asked : settings.defaultRules = true
      · exact .inr (rules asked)
      · exact .inl asked
    · exact isIncluded.imp_left List.eq_nil_iff_forall_not_mem.mpr

end NameSelection

/-! ## Named values that pass -/

theorem Fields.mem_namesWhere {values : Fields} (distinct : values.keys.Nodup) {name : String}
    {value : Value} (member : (name, value) ∈ values) (test : String → Value → Bool) :
    name ∈ values.namesWhere test ↔ test name value = true := by
  simp only [Fields.namesWhere, Fields.keys, List.mem_map, List.mem_filter]
  constructor
  · rintro ⟨entry, ⟨inside, passes⟩, same⟩
    have only : entry = (name, value) := List.inj_on_of_nodup_map distinct inside member same
    rw [only] at passes
    exact passes
  · intro passes
    exact ⟨(name, value), ⟨member, passes⟩, rfl⟩

theorem Fields.namesWhere_sublist (values : Fields) {test other : String → Value → Bool}
    (implies : ∀ name value, test name value = true → other name value = true) :
    (values.namesWhere test).Sublist (values.namesWhere other) :=
  (List.monotone_filter_right values fun entry => implies entry.1 entry.2).map _

namespace ModuleSettings

variable (settings : ModuleSettings) (renderer : Renderer) (options : Options)

/-- A schema stands in the module under its name, rendered or not, if it is wanted, and is filtered
otherwise. -/
theorem kept_iff {values : Fields} (distinct : values.keys.Nodup) {name : String} {value : Value}
    (member : (name, value) ∈ values) (schema : renderer.dialect.recognizes value = true) :
    let m := settings.build renderer options values
    (name ∈ m.exported ∨ name ∈ m.failed ↔ settings.wants name value = true) ∧
      (name ∈ m.filtered ↔ settings.wants name value = false) := by
  intro m
  simp only [m, Module.exported, Module.failed, Module.filtered, namesOf_build,
    Fields.mem_namesWhere distinct member, dispose, schema]
  cases settings.wants name value with
  | false => simp [Disposition.isExported, Disposition.isFailed, Disposition.isFiltered]
  | true =>
    cases renderer.render options value <;>
      simp [Disposition.isExported, Disposition.isFailed, Disposition.isFiltered]

/-- What is kept under a filter is kept alike under one that wants more. -/
theorem kept_sublist {wider : ModuleSettings}
    (more : ∀ name value, settings.wants name value = true → wider.wants name value = true)
    {fate : Disposition → Bool} (unfiltered : fate .filtered = false)
    (values : Fields) :
    ((settings.build renderer options values).namesOf fate).Sublist
      ((wider.build renderer options values).namesOf fate) := by
  rw [namesOf_build, namesOf_build]
  refine Fields.namesWhere_sublist values fun name value kept => ?_
  cases wanted : settings.wants name value with
  | true =>
    simp only [dispose, wanted, more name value wanted] at kept ⊢
    exact kept
  | false =>
    simp only [dispose, wanted] at kept ⊢
    by_cases schema : renderer.dialect.recognizes value = true
    · simp [schema, unfiltered] at kept
    · simpa [schema] using kept

end ModuleSettings

/-! ## Runs -/

/-- The same configuration with other patterns. -/
def Config.withPatterns (config : Config) (included excluded : List String) : Config :=
  { config with filter := { config.filter with included, excluded } }

/-- The same command line with other patterns. -/
def Overrides.withPatterns (overrides : Overrides) (included excluded : List String) :
    Overrides :=
  { overrides with included, excluded }

namespace Config

variable {compile : PatternCompiler} {time : Instant} {values : Fields} {config : Config}

theorem faultIn_generateWith (compile : PatternCompiler) (config : Config) (time : Instant)
    (values : Fields) :
    faultIn (config.generateWith compile time values) =
      (config.filter.included ++ config.filter.excluded).findSome? compile.fault? :=
  (faultIn_map _ _).trans (NameSelection.faultIn_ofSettings compile config.filter)

/-- The first text that is no pattern is reported. -/
theorem generateWith_eq_error_iff {fault : PatternFault} :
    config.generateWith compile time values = .error fault ↔
      ∃ before after,
        config.filter.included ++ config.filter.excluded = before ++ fault.pattern :: after ∧
        compile fault.pattern = .error fault.fault ∧
        ∀ pattern ∈ before, ∃ names, compile pattern = .ok names := by
  rw [eq_error_iff, faultIn_generateWith, List.findSome?_eq_some_iff]
  constructor
  · rintro ⟨before, pattern, after, listed, wrong, others⟩
    obtain ⟨rfl, fails⟩ := PatternCompiler.fault?_eq_some_iff.mp wrong
    exact ⟨before, after, listed, fails, fun pattern member =>
      PatternCompiler.fault?_eq_none_iff.mp (others pattern member)⟩
  · rintro ⟨before, after, listed, fails, others⟩
    exact ⟨before, fault.pattern, after, listed,
      PatternCompiler.fault?_eq_some_iff.mpr ⟨rfl, fails⟩, fun pattern member =>
        PatternCompiler.fault?_eq_none_iff.mpr (others pattern member)⟩

/-- There is no module exactly if a text is no pattern. -/
theorem exists_generateWith_eq_error_iff :
    (∃ fault, config.generateWith compile time values = .error fault) ↔
      ∃ pattern ∈ config.filter.included ++ config.filter.excluded,
        ∃ fault, compile pattern = .error fault := by
  constructor
  · rintro ⟨fault, failed⟩
    obtain ⟨before, after, listed, fails, -⟩ := generateWith_eq_error_iff.mp failed
    have member : fault.pattern ∈ before ++ fault.pattern :: after := by simp
    exact ⟨fault.pattern, listed ▸ member, fault.fault, fails⟩
  · rintro ⟨pattern, member, fault, wrong⟩
    have found : compile.fault? pattern = some ⟨pattern, fault⟩ :=
      PatternCompiler.fault?_eq_some_iff.mpr ⟨rfl, wrong⟩
    have some : ((config.filter.included ++ config.filter.excluded).findSome?
        compile.fault?).isSome = true :=
      List.findSome?_isSome_iff.mpr ⟨pattern, member, by rw [found]; rfl⟩
    obtain ⟨first, reported⟩ := Option.isSome_iff_exists.mp some
    exact ⟨first, eq_error_iff.mpr ((faultIn_generateWith ..).trans reported)⟩

theorem generateWith_eq_ok_iff {m : Module} :
    config.generateWith compile time values = .ok m ↔
      ∃ filter, NameSelection.ofSettings compile config.filter = .ok filter ∧
        (config.moduleSettings time filter).build (.ofVersion config.render.version)
          config.render.options values = m := by
  unfold generateWith
  rw [bind_eq_ok_iff]
  simp only [pure, Except.pure, Except.ok.injEq]

/-- Other lists of the same patterns, if they come to a module, come to the same one. -/
theorem generateWith_withPatterns {included excluded : List String} {m : Module}
    (sameIncluded : ∀ p, p ∈ included ↔ p ∈ config.filter.included)
    (sameExcluded : ∀ p, p ∈ excluded ↔ p ∈ config.filter.excluded)
    (made : config.generateWith compile time values = .ok m) :
    (config.withPatterns included excluded).generateWith compile time values = .ok m := by
  obtain ⟨filter, compiled, built⟩ := generateWith_eq_ok_iff.mp made
  have meanings : ∀ p ∈ config.filter.included ++ config.filter.excluded,
      compile.fault? p = none := by
    rw [← List.findSome?_eq_none_iff, ← NameSelection.faultIn_ofSettings, compiled]
    rfl
  have faultless : faultIn (NameSelection.ofSettings compile
      (config.withPatterns included excluded).filter) = none := by
    rw [NameSelection.faultIn_ofSettings, List.findSome?_eq_none_iff]
    intro p member
    refine meanings p ?_
    rw [List.mem_append] at member ⊢
    exact member.imp (sameIncluded p).mp (sameExcluded p).mp
  cases compiled' : NameSelection.ofSettings compile (config.withPatterns included excluded).filter
    with
  | error fault =>
    rw [compiled'] at faultless
    cases faultless
  | ok filter' =>
    refine generateWith_eq_ok_iff.mpr ⟨filter', compiled', ?_⟩
    have alike : filter'.accepts = filter.accepts := by
      funext name
      rw [Bool.eq_iff_iff, NameSelection.accepts_iff compiled', NameSelection.accepts_iff compiled]
      have setIncluded : {p | p ∈ included} = {p | p ∈ config.filter.included} :=
        Set.ext sameIncluded
      have setExcluded : {p | p ∈ excluded} = {p | p ∈ config.filter.excluded} :=
        Set.ext sameExcluded
      simp only [withPatterns, setIncluded, setExcluded]
    have settings : (config.withPatterns included excluded).moduleSettings time filter' =
        config.moduleSettings time filter := by
      simp only [moduleSettings, alike]
      rfl
    rw [settings]
    exact built

/-- Excluding more keeps less, of each fate. -/
theorem namesOf_withPatterns_sublist {included excluded : List String} {m fewer : Module}
    (sameIncluded : ∀ p, p ∈ included ↔ p ∈ config.filter.included)
    (moreExcluded : ∀ p ∈ config.filter.excluded, p ∈ excluded)
    (made : config.generateWith compile time values = .ok m)
    (made' : (config.withPatterns included excluded).generateWith compile time values = .ok fewer)
    {fate : Disposition → Bool} (unfiltered : fate .filtered = false) :
    (fewer.namesOf fate).Sublist (m.namesOf fate) := by
  obtain ⟨filter, compiled, rfl⟩ := generateWith_eq_ok_iff.mp made
  obtain ⟨filter', compiled', rfl⟩ := generateWith_eq_ok_iff.mp made'
  refine ModuleSettings.kept_sublist _ _ _ (fun name _ accepted => ?_) unfiltered values
  have selected := (NameSelection.accepts_iff compiled' name).mp accepted
  have setIncluded : {p | p ∈ included} = {p | p ∈ config.filter.included} := Set.ext sameIncluded
  simp only [withPatterns, setIncluded] at selected
  exact (NameSelection.accepts_iff compiled name).mpr (selected.of_subset moreExcluded)

/-! ## Patterns of a configuration under a command line -/

/-- All patterns, those to include first, and those of the configuration before those of the command
line. -/
def patterns (config : Config) (overrides : Overrides) : List String :=
  config.filter.included ++ overrides.included
    ++ (config.filter.excluded ++ overrides.excluded)

/-- The set of patterns to include, from either source. -/
def includedPatterns (config : Config) (overrides : Overrides) : Set String :=
  {p | p ∈ config.filter.included ∨ p ∈ overrides.included}

def excludedPatterns (config : Config) (overrides : Overrides) : Set String :=
  {p | p ∈ config.filter.excluded ∨ p ∈ overrides.excluded}

theorem includedPatterns_eq (config : Config) (overrides : Overrides) :
    config.includedPatterns overrides = {p | p ∈ (config.override overrides).filter.included} :=
  Set.ext fun _ => List.mem_append.symm

theorem excludedPatterns_eq (config : Config) (overrides : Overrides) :
    config.excludedPatterns overrides = {p | p ∈ (config.override overrides).filter.excluded} :=
  Set.ext fun _ => List.mem_append.symm

/-- What the patterns decide about the module of some values. -/
structure SelectsBySets (compile : PatternCompiler) (time : Instant) (values : Fields)
    (config : Config) (overrides : Overrides) : Prop where
  /-- There is no module exactly if some text is no pattern. -/
  fails_iff : (∃ fault, (config.override overrides).generateWith compile time values =
      .error fault) ↔
    ∃ pattern ∈ config.patterns overrides, ∃ fault, compile pattern = .error fault
  /-- The first such text is reported. -/
  reports_iff : ∀ fault,
    (config.override overrides).generateWith compile time values = .error fault ↔
      ∃ before after, config.patterns overrides = before ++ fault.pattern :: after ∧
        compile fault.pattern = .error fault.fault ∧
        ∀ pattern ∈ before, ∃ names, compile pattern = .ok names
  /-- Schemas stand in the module under the names that the sets of patterns let pass, and the other
  ones are filtered. -/
  keeps_iff : ∀ m, (config.override overrides).generateWith compile time values = .ok m →
    values.keys.Nodup → ∀ name value, (name, value) ∈ values →
    (config.override overrides).render.version.dialect.recognizes value = true →
    let selected := Selects compile config.filter.defaultRules (config.includedPatterns overrides)
      (config.excludedPatterns overrides) name
    (name ∈ m.exported ∨ name ∈ m.failed ↔ selected) ∧ (name ∈ m.filtered ↔ ¬selected)
  /-- Lists of the same patterns, in another order, repeated, or divided otherwise between the two
  sources, come to the same module. -/
  same_of_sets : ∀ included excluded included' excluded',
    let config' := config.withPatterns included excluded
    let overrides' := overrides.withPatterns included' excluded'
    config'.includedPatterns overrides' = config.includedPatterns overrides →
    config'.excludedPatterns overrides' = config.excludedPatterns overrides →
    ∀ m, (config.override overrides).generateWith compile time values = .ok m →
      (config'.override overrides').generateWith compile time values = .ok m
  /-- With more patterns to exclude no name is exported, or has failed, that was not before. -/
  fewer_of_excluded : ∀ included excluded included' excluded',
    let config' := config.withPatterns included excluded
    let overrides' := overrides.withPatterns included' excluded'
    config'.includedPatterns overrides' = config.includedPatterns overrides →
    config.excludedPatterns overrides ⊆ config'.excludedPatterns overrides' →
    ∀ m fewer, (config.override overrides).generateWith compile time values = .ok m →
      (config'.override overrides').generateWith compile time values = .ok fewer →
      fewer.exported.Sublist m.exported ∧ fewer.failed.Sublist m.failed
  /-- A command line that is applied twice changes nothing the second time. -/
  again : ((config.override overrides).override overrides).generateWith compile time values =
    (config.override overrides).generateWith compile time values

theorem override_withPatterns (config : Config) (overrides : Overrides)
    (included excluded included' excluded' : List String) :
    (config.withPatterns included excluded).override (overrides.withPatterns included' excluded') =
      (config.override overrides).withPatterns (included ++ included') (excluded ++ excluded') :=
  rfl

theorem override_override (config : Config) (overrides : Overrides) :
    (config.override overrides).override overrides =
      (config.override overrides).withPatterns
        (config.filter.included ++ overrides.included ++ overrides.included)
        (config.filter.excluded ++ overrides.excluded ++ overrides.excluded) := by
  have last {α : Type} (given : Option α) (old : α) :
      given.getD (given.getD old) = given.getD old := by
    cases given <;> rfl
  simp only [override, withPatterns, last]

theorem generateWith_override_override (compile : PatternCompiler) (time : Instant)
    (values : Fields) (config : Config) (overrides : Overrides) :
    ((config.override overrides).override overrides).generateWith compile time values =
      (config.override overrides).generateWith compile time values := by
  rw [override_override]
  cases made : (config.override overrides).generateWith compile time values with
  | ok m =>
    refine generateWith_withPatterns (fun p => ?_) (fun p => ?_) made
    · simp [override]
    · simp [override]
  | error fault =>
    rw [eq_error_iff, faultIn_generateWith] at made ⊢
    rw [← made]
    simp only [withPatterns, override, List.findSome?_append, Option.or_assoc, Option.or_self]

/-- **Only the sets of patterns decide what a run exports**, whatever patterns mean. -/
theorem selects_by_sets (compile : PatternCompiler) (time : Instant) (values : Fields)
    (config : Config) (overrides : Overrides) :
    SelectsBySets compile time values config overrides where
  fails_iff := exists_generateWith_eq_error_iff
  reports_iff _ := generateWith_eq_error_iff
  keeps_iff m made distinct name value member schema := by
    obtain ⟨filter, compiled, rfl⟩ := generateWith_eq_ok_iff.mp made
    have accepted := NameSelection.accepts_iff compiled name
    rw [← includedPatterns_eq, ← excludedPatterns_eq] at accepted
    obtain ⟨kept, filtered⟩ :=
      ((config.override overrides).moduleSettings time filter).kept_iff
        (.ofVersion (config.override overrides).render.version)
        (config.override overrides).render.options distinct member schema
    exact ⟨kept.trans accepted, filtered.trans (Bool.eq_false_iff.trans (not_congr accepted))⟩
  same_of_sets included excluded included' excluded' sameIncluded sameExcluded m made := by
    rw [override_withPatterns]
    rw [includedPatterns_eq, includedPatterns_eq, override_withPatterns] at sameIncluded
    rw [excludedPatterns_eq, excludedPatterns_eq, override_withPatterns] at sameExcluded
    exact generateWith_withPatterns (Set.ext_iff.mp sameIncluded) (Set.ext_iff.mp sameExcluded) made
  fewer_of_excluded included excluded included' excluded' sameIncluded moreExcluded m fewer made
      made' := by
    rw [override_withPatterns] at made'
    rw [includedPatterns_eq, includedPatterns_eq, override_withPatterns] at sameIncluded
    rw [excludedPatterns_eq, excludedPatterns_eq, override_withPatterns] at moreExcluded
    have less {fate : Disposition → Bool} (unfiltered : fate .filtered = false) :
        (fewer.namesOf fate).Sublist (m.namesOf fate) :=
      namesOf_withPatterns_sublist (Set.ext_iff.mp sameIncluded)
        (fun p member => moreExcluded member) made made' unfiltered
    exact ⟨less rfl, less rfl⟩
  again := generateWith_override_override compile time values config overrides

/-- Schemas of one kind under three names. -/
def threeNames : Fields := ModuleSettings.stringSchemas ["ApiUser", "ApiDraft", "User"]

/-- A configuration that includes some names, and a command line that excludes some of them. -/
theorem selects_by_sets_of_globs :
    let config : Config := { filter := { included := ["Api*"] } }
    let overrides : Overrides := { excluded := ["*Draft"] }
    let selected := Selects Glob.compile true (config.includedPatterns overrides)
      (config.excludedPatterns overrides)
    let repeated := (config.withPatterns ["Api*", "Api*"] ["*Draft"]).override
      (overrides.withPatterns [] ["*Draft"])
    threeNames.keys.Nodup ∧ ∃ m,
      (config.override overrides).generateWith Glob.compile ⟨0, 0⟩ threeNames = .ok m ∧
      m.exported = ["ApiUser"] ∧ m.filtered = ["ApiDraft", "User"] ∧
      selected "ApiUser" ∧ ¬selected "ApiDraft" ∧ ¬selected "User" ∧
      repeated.generateWith Glob.compile ⟨0, 0⟩ threeNames = .ok m := by
  intro config overrides selected repeated
  have distinct : threeNames.keys.Nodup := by decide
  have sets := selects_by_sets Glob.compile ⟨0, 0⟩ threeNames config overrides
  have names : ((config.override overrides).generateWith Glob.compile ⟨0, 0⟩ threeNames).map
      (fun m => (m.exported, m.filtered)) = .ok (["ApiUser"], ["ApiDraft", "User"]) := by
    decide +kernel
  cases made : (config.override overrides).generateWith Glob.compile ⟨0, 0⟩ threeNames with
  | error fault =>
    rw [made] at names
    cases names
  | ok m =>
    rw [made] at names
    obtain ⟨exported, filtered⟩ := Prod.mk.inj (Except.ok.inj names)
    have keeps (name : String) (member : name ∈ ["ApiUser", "ApiDraft", "User"]) :=
      sets.keeps_iff m made distinct name _ (List.mem_map_of_mem member) rfl
    refine ⟨distinct, m, rfl, exported, filtered, ?_, ?_, ?_, ?_⟩
    · exact (keeps "ApiUser" (by decide)).1.mp (.inl (by rw [exported]; decide))
    · exact (keeps "ApiDraft" (by decide)).2.mp (by rw [filtered]; decide)
    · exact (keeps "User" (by decide)).2.mp (by rw [filtered]; decide)
    · refine sets.same_of_sets _ _ _ _ (Set.ext fun p => ?_) (Set.ext fun p => ?_) m made
      · simp [includedPatterns, withPatterns, Overrides.withPatterns, config, overrides]
      · simp [excludedPatterns, withPatterns, Overrides.withPatterns, config, overrides]

end Config
end SchemaSource
