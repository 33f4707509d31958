import SchemaSource.Proofs.Commands
import SchemaSource.Proofs.Headers
/-!
A module that was just generated passes its check, at any later time. The two texts differ at most
in the time that their headers give, and a check looks only at what follows the header; the files
that decide about the text are still the same, as long as the module is not written over them and no
folder on its way takes the place of a configuration.
-/
namespace SchemaSource

namespace Config

/-- Whether a module can be generated does not depend on the time, and no more of its text than the
header does. A check at another time finds that the two agree. -/
theorem generate_agrees {config : Config} {time : Instant} {values : Fields} {made : Module}
    (generated : config.generate time values = .ok made) (later : Instant) :
    ∃ again, config.generate later values = .ok again ∧
      Command.agree made.code again.code = true := by
  unfold generate generateWith at generated ⊢
  obtain ⟨filter, compiled, generated⟩ := bind_eq_ok_iff.mp generated
  cases generated
  refine ⟨_, bind_eq_ok_iff.mpr ⟨filter, compiled, rfl⟩, ?_⟩
  unfold Command.agree
  rw [beq_iff_eq]
  cases header : config.output.header with
  | some header =>
    have settings : config.moduleSettings time filter = config.moduleSettings later filter := by
      rw [moduleSettings, moduleSettings, headerAt_of_custom header, headerAt_of_custom header]
    rw [settings]
  | none =>
    have cut (time : Instant) : Module.withoutHeader ((config.moduleSettings time filter).build
        (.ofVersion config.render.version) config.render.options values).code =
          ((config.moduleSettings time filter).build (.ofVersion config.render.version)
            config.render.options values).body :=
      Module.withoutHeader_code rfl (import_not_infix_headerAt header time)
    have settings : config.moduleSettings later filter =
        (config.moduleSettings time filter).withHeader (some (config.headerAt later)) := rfl
    rw [cut, cut, settings, Module.body_build]

end Config

/-! ## Files that decide -/

namespace Tree

variable {before after : Tree} {path text : String} (stored : Stored before after path text)

theorem readConfig_eq_ok_iff {files : Tree} {path : String} {config : Config} :
    files.readConfig path = .ok config ↔
      ∃ text, files.read path = .ok text ∧ Config.ofText? text = some config := by
  unfold readConfig
  cases files.read path with
  | error fault => simp
  | ok text => cases means : Config.ofText? text <;> simp [means]

theorem way_defaultFile : Path.way Config.defaultFile = [Config.defaultFile] := by decide

theorem contains_defaultFile (root : Tree) :
    root.contains Config.defaultFile = (root.look [Config.defaultFile]).isSome := by
  have placed : root.place Config.defaultFile = .ok ⟨[], some Config.defaultFile, false⟩ := rfl
  have reached : root.atPlace ⟨[], some Config.defaultFile, false⟩ =
      .ok (root.at? [Config.defaultFile]) := rfl
  simp only [contains, find, look, placed, reached, bind, Except.bind]
  cases root.at? [Config.defaultFile] <;> rfl

include stored

theorem Stored.readConfig {other : String} {config : Config}
    (loaded : before.readConfig other = .ok config) (apart : Path.way other ≠ Path.way path) :
    after.contains other = true ∧ after.readConfig other = .ok config := by
  obtain ⟨content, reads, means⟩ := readConfig_eq_ok_iff.mp loaded
  have still := stored.others other content reads apart
  exact ⟨contains_of_read still, readConfig_eq_ok_iff.mpr ⟨content, still, means⟩⟩

/-- The configuration in use stays the same where the text is not stored in its place, nor on a way
by the place where one is looked for. -/
theorem Stored.configAt {config? : Option String} {config : Config}
    (loaded : before.configAt config? = .ok config)
    (apart : Path.way path ≠ Path.way (config?.getD Config.defaultFile))
    (around : config? = none → before.contains Config.defaultFile = false →
      Path.way Config.defaultFile ∉ Path.stops path) :
    after.configAt config? = .ok config := by
  unfold Tree.configAt at loaded ⊢
  cases config? with
  | some other =>
    dsimp only at loaded ⊢
    split at loaded
    · obtain ⟨there, reads⟩ := stored.readConfig loaded (Ne.symm apart)
      rw [if_pos there, reads]
    · cases loaded
  | none =>
    dsimp only at loaded ⊢
    split at loaded
    · obtain ⟨there, reads⟩ := stored.readConfig loaded (Ne.symm apart)
      rw [if_pos there, reads]
    · next missing =>
      cases loaded
      have aside := around rfl (Bool.eq_false_iff.mpr missing)
      rw [way_defaultFile] at aside
      rw [contains_defaultFile, ← stored.aside _ aside, ← contains_defaultFile] at missing
      rw [if_neg missing]

theorem Stored.snapshotAt {snapshot : String} {values : Fields}
    (opened : before.snapshotAt snapshot = .ok values)
    (apart : Path.way path ≠ Path.way snapshot) : after.snapshotAt snapshot = .ok values := by
  unfold Tree.snapshotAt at opened ⊢
  split at opened
  · cases reads : before.read snapshot with
    | error fault =>
      rw [reads] at opened
      cases opened
    | ok content =>
      have still := stored.others snapshot content reads (Ne.symm apart)
      rw [reads] at opened
      rw [if_pos (contains_of_read still), still]
      exact opened
  · cases opened

end Tree

/-! ## Fresh modules -/

/-- **A fresh module passes its check.** Where a module was generated without fault, a check with
the same snapshot, configuration, version and path ends well on the files that are there then,
whatever the two times are. The module must not lie over the snapshot or the configuration; and
where there is no configuration, its path must not pass the place where one is looked for, since a
folder that is created there would be taken for one. -/
theorem CheckRequest.passes_fresh_module (entries : Tree.Entries) (printed : List String)
    (snapshot : String) (config? output? : Option String) (version? : Option Version)
    (time later : Instant) {config : Config} {after : Machine}
    (loaded : (Tree.folder entries).configAt config? = .ok config)
    (generated : Machine.perform ⟨.folder entries, printed⟩ (GenerateRequest.run
      { snapshot, config := config?, overrides := { output := output?, version := version? } }
      time) = (.ok (), after)) :
    let path := output?.getD config.output.file
    Path.way path ≠ Path.way snapshot →
    Path.way path ≠ Path.way (config?.getD Config.defaultFile) →
    (config? = none → (Tree.folder entries).contains Config.defaultFile = false →
      Path.way Config.defaultFile ∉ Path.stops path) →
    ∀ printed', ∃ lines, Machine.perform ⟨after.files, printed'⟩ (CheckRequest.run
      { snapshot, config := config?, output := output?, version := version? } later) =
        (.ok (), ⟨after.files, printed' ++ lines⟩) := by
  intro path apart apart' around printed'
  obtain ⟨config', values, result, loaded', opened, made, stored⟩ :=
    GenerateRequest.stored_of_run rfl generated
  have same : config' = config := Except.ok.inj (loaded'.symm.trans loaded)
  subst same
  have stored : Tree.Stored (.folder entries) after.files path result.code := stored rfl
  obtain ⟨again, remade, agrees⟩ := Config.generate_agrees made later
  exact CheckRequest.perform_run ⟨after.files, printed'⟩ later
    (stored.configAt loaded apart' around) stored.reads (stored.snapshotAt opened apart) remade
    agrees

/-- What generating a module comes to in a folder with a snapshot and nothing else. -/
def generatedAlone (output? : Option String) : Except CommandFault Unit × Machine :=
  Machine.perform
    ⟨.folder [("snap.json", .file (.text
      "\x7b\"Name\": \x7b\"_zod\": \x7b\"def\": \x7b\"type\": \"string\"\x7d\x7d\x7d\x7d"))], []⟩
    (GenerateRequest.run { snapshot := "snap.json", overrides := { output := output? } } ⟨0, 0⟩)

theorem generatedAlone_eq {output? : Option String}
    (ended : (generatedAlone output?).1.isOk = true) :
    generatedAlone output? = (.ok (), (generatedAlone output?).2) := by
  cases outcome : generatedAlone output? with
  | mk answer after =>
    rw [outcome] at ended
    cases answer with
    | error fault => cases ended
    | ok done => rfl

theorem CheckRequest.passes_fresh_module_in_new_folder :
    let after := (generatedAlone none).2
    after.files.look ["generated", "schemas.ts"] ≠ none ∧
      ∃ lines, Machine.perform ⟨after.files, []⟩
        (CheckRequest.run { snapshot := "snap.json" } ⟨60, 0⟩) =
          (.ok (), ⟨after.files, lines⟩) := by
  intro after
  refine ⟨by decide +kernel, ?_⟩
  have ended : (generatedAlone none).1.isOk = true := by decide +kernel
  exact CheckRequest.passes_fresh_module _ [] "snap.json" none none none ⟨0, 0⟩ ⟨60, 0⟩ rfl
    (generatedAlone_eq ended) (by decide) (by decide) (fun _ _ => by decide) []

/-- A folder on the way of the module can take the place of the configuration. -/
theorem CheckRequest.fails_beside_folder_of_configuration :
    let path := "zod-codepen.toml/schemas.ts"
    let generated := generatedAlone (some path)
    generated.1.isOk = true ∧ Path.way path ≠ Path.way "snap.json" ∧
      Path.way path ≠ Path.way Config.defaultFile ∧
      (Machine.perform ⟨generated.2.files, []⟩
        (CheckRequest.run { snapshot := "snap.json", output := some path } ⟨60, 0⟩)).1.isOk =
          false := by
  decide +kernel

end SchemaSource
