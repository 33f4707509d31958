import Mathlib.Data.List.Induction
import SchemaSource.CommandLine
import SchemaSource.Proofs.Commands
/-!
No run of the program damages a file. A run that fails, a check and a dry run leave every file with
what it held; a run that ends well otherwise changes the one file that its command is about. This is
read off all that a command can come to, and then followed through runs one after the other.
-/
namespace SchemaSource

open Machine Command

/-! ## Files -/

namespace Tree

variable {before middle after : Tree} {path text : String}

/-- A file stands somewhere with the same content as before, or there is none as before. -/
def SameFile (way : List String) (before after : Tree) : Prop :=
  ∀ content, after.look way = some (.file content) ↔ before.look way = some (.file content)

def SameFiles (before after : Tree) : Prop := ∀ way, SameFile way before after

theorem SameFiles.refl (files : Tree) : SameFiles files files := fun _ _ => Iff.rfl

/-- New folders are no files. -/
theorem Grows.sameFiles {ways : List (List String)} (grows : Grows before after ways) :
    SameFiles before after := by
  intro way content
  rcases grows way with same | ⟨nothing, folder, -⟩
  · rw [same]
  · rw [nothing, folder]
    exact ⟨nofun, nofun⟩

/-- The file at a path holds a text, and no other file has changed. -/
structure HoldsOnly (before after : Tree) (path text : String) : Prop where
  reads : after.read path = .ok text
  here : after.look (Path.way path) = some (.file (.text text))
  elsewhere : ∀ way, way ≠ Path.way path → SameFile way before after

theorem HoldsOnly.of_read (rooted : Rooted before) (reads : before.read path = .ok text) :
    HoldsOnly before before path text := by
  obtain ⟨place, led, -, -, here⟩ := read_eq_ok_iff.mp reads
  exact ⟨reads, (place_spec rooted led).1 ▸ here, fun way _ => SameFiles.refl before way⟩

theorem HoldsOnly.of_write (rooted : Rooted before)
    (grows : Grows before middle (Path.stops path))
    (put : middle.write path (.text text) = .ok after) : HoldsOnly before after path text := by
  have stands := (write_eq_ok (grows.rooted rooted) put).1
  refine ⟨(Stored.of_write rooted grows put).reads, stands.here, fun way apart content => ?_⟩
  rw [stands.elsewhere apart]
  exact grows.sameFiles way content

/-- Writing a file does not put one in the place of the root. -/
theorem rooted_of_write {content : Content} (rooted : Rooted before)
    (put : before.write path content = .ok after) : Rooted after := by
  obtain ⟨stands, free, -⟩ := write_eq_ok rooted put
  have apart : [] ≠ Path.way path := fun root => free (root ▸ rooted)
  exact (stands.elsewhere apart).trans rooted

/-- Where a file is written that was not there, nothing was. -/
theorem look_of_write_new {content : Content} (rooted : Rooted before)
    (new : before.contains path = false) (put : before.write path content = .ok after) :
    before.look (Path.way path) = none := by
  obtain ⟨-, free, place, led, short, fits, way⟩ := write_eq_ok rooted put
  rw [look, ← way]
  cases stands : before.at? place.way with
  | none => rfl
  | some tree =>
    have found : before.find path = .ok tree :=
      find_eq_ok_iff.mpr ⟨place, led, short, stands, fun slash => by simp [fits] at slash⟩
    rw [contains, found] at new
    cases new

end Tree

/-! ## Runs -/

/-- A run of the program: the words it is given, and the time on its clock. -/
structure Invocation where
  words : List String
  time : Instant

namespace Invocation

variable (run : Invocation) (before : Machine)

/-- The command that a run is asked for. -/
def command? : Option Command := CommandLine.command? run.words

/-- The status with which a run ends, and the machine after it. -/
def outcome : Nat × Machine :=
  match run.command? with
  | none => (2, before)
  | some command =>
    match before.perform (command.run run.time) with
    | (.ok _, after) => (0, after)
    | (.error fault, after) => (fault.exitCode, after)

def status : Nat := (run.outcome before).1

def after : Machine := (run.outcome before).2

/-- A run is to store a text at a path: the module that its configuration asks for, or the
configuration that others start from. -/
inductive Stores : String → String → Prop
  | module {request : GenerateRequest} {config : Config} {values : Fields} {module : Module}
      (asked : run.command? = some (.generate request)) (real : request.dryRun = false)
      (loaded : before.files.configAt request.config = .ok config)
      (opened : before.files.snapshotAt request.snapshot = .ok values)
      (made : (config.override request.overrides).generate run.time values = .ok module) :
      Stores (config.override request.overrides).output.file module.code
  | template {request : InitRequest} (asked : run.command? = some (.init request)) :
      Stores request.output Config.template

/-- What a run does to the files, by the command that it is asked for and its status. -/
structure KeepsFiles : Prop where
  failed : run.status before ≠ 0 → before.files.SameFiles (run.after before).files
  check {request : CheckRequest} : run.command? = some (.check request) →
    (run.after before).files = before.files
  dryRun {request : GenerateRequest} : run.command? = some (.generate request) →
    request.dryRun = true → before.files.SameFiles (run.after before).files
  /-- A module that is generated is stored, which is told as its being up to date just where it
  could be read before. -/
  generate {request : GenerateRequest} : run.command? = some (.generate request) →
    request.dryRun = false → run.status before = 0 →
    ∃ path text, run.Stores before path text ∧
      before.files.HoldsOnly (run.after before).files path text ∧
      ((run.after before).printed.getLast? = some ("✓ " ++ path ++ " is up-to-date") ↔
        before.files.read path = .ok text)
  /-- A configuration takes the place of no file unless that is asked for. -/
  init {request : InitRequest} : run.command? = some (.init request) → run.status before = 0 →
    before.files.HoldsOnly (run.after before).files request.output Config.template ∧
      (request.force = false → before.files.contains request.output = false ∧
        before.files.look (Path.way request.output) = none)

end Invocation

theorem CommandFault.exitCode_ne_zero (fault : CommandFault) : fault.exitCode ≠ 0 := by
  cases fault <;> exact nofun

/-- The two lines that tell of a module are never the same, whatever its path. -/
theorem written_ne_upToDate (path : String) (bytes : Nat) :
    "✓ Written " ++ toString bytes ++ " bytes to " ++ path ≠ "✓ " ++ path ++ " is up-to-date" := by
  intro same
  have sizes := congrArg String.length same
  have written : "✓ Written ".length = 10 := by decide
  have between : " bytes to ".length = 10 := by decide
  have mark : "✓ ".length = 2 := by decide
  have upToDate : " is up-to-date".length = 14 := by decide
  simp only [String.length_append] at sizes
  omega

namespace Invocation

variable {run : Invocation} {before : Machine} {command : Command}

theorem after_of_none (none : run.command? = none) : run.after before = before := by
  rw [after, outcome, none]

/-- A run of a command ends as the command does, with a status that tells how. -/
theorem leads_of_command (asked : run.command? = some command)
    {post : Except CommandFault Unit → Machine → Prop}
    (ends : before.Ends (command.run run.time) post) :
    run.status before ≠ 0 ∧ (∃ fault, post (.error fault) (run.after before)) ∨
      run.status before = 0 ∧ post (.ok ()) (run.after before) := by
  unfold status after outcome
  rw [asked]
  dsimp only
  unfold Ends at ends
  cases done : before.perform (command.run run.time) with
  | mk answer later =>
    rw [done] at ends
    cases answer with
    | error fault => exact .inl ⟨fault.exitCode_ne_zero, fault, ends⟩
    | ok _ => exact .inr ⟨rfl, ends⟩

theorem files_of_check {request : CheckRequest} (asked : run.command? = some (.check request)) :
    (run.after before).files = before.files := by
  rcases leads_of_command asked (request.ends_run before run.time) with
    ⟨-, _, same⟩ | ⟨-, same⟩
  · exact same
  · exact same

theorem failed_keepsFiles (rooted : before.files.Rooted) (failed : run.status before ≠ 0) :
    before.files.SameFiles (run.after before).files := by
  cases asked : run.command? with
  | none =>
    rw [after_of_none asked]
    exact .refl _
  | some command =>
    cases command with
    | generate request =>
      rcases leads_of_command asked (request.ends_run before run.time) with
        ⟨-, fault, leads⟩ | ⟨ended, -⟩
      · cases leads with
        | failed grows => exact (grows rooted).sameFiles
      · exact absurd ended failed
    | init request =>
      rcases leads_of_command asked (request.ends_run before) with ⟨-, fault, leads⟩ | ⟨ended, -⟩
      · cases leads with
        | failed same => exact same ▸ .refl _
      · exact absurd ended failed
    | check request => exact files_of_check asked ▸ .refl _

theorem generate_keepsFiles {request : GenerateRequest} (rooted : before.files.Rooted)
    (asked : run.command? = some (.generate request)) (real : request.dryRun = false)
    (ended : run.status before = 0) :
    ∃ path text, run.Stores before path text ∧
      before.files.HoldsOnly (run.after before).files path text ∧
      ((run.after before).printed.getLast? = some ("✓ " ++ path ++ " is up-to-date") ↔
        before.files.read path = .ok text) := by
  rcases leads_of_command asked (request.ends_run before run.time) with ⟨failed, -⟩ | ⟨-, leads⟩
  · exact absurd ended failed
  generalize run.after before = later at leads ⊢
  cases leads with
  | done loaded opened made output =>
    refine ⟨_, _, .module asked real loaded opened made, ?_⟩
    cases output with
    | preview dry =>
      rw [real] at dry
      cases dry
    | unchanged _ held =>
      refine ⟨.of_read rooted held, fun _ => held, fun _ => ?_⟩
      rw [Command.outcome, List.getLast?_concat]
    | written _ other grows put =>
      refine ⟨.of_write rooted (grows rooted) put, fun told => ?_, fun held => absurd held other⟩
      rw [Command.outcome, List.getLast?_concat] at told
      exact absurd (Option.some.inj told) (written_ne_upToDate _ _)

theorem init_keepsFiles {request : InitRequest} (rooted : before.files.Rooted)
    (asked : run.command? = some (.init request)) (ended : run.status before = 0) :
    before.files.HoldsOnly (run.after before).files request.output Config.template ∧
      (request.force = false → before.files.contains request.output = false ∧
        before.files.look (Path.way request.output) = none) := by
  rcases leads_of_command asked (request.ends_run before) with ⟨failed, -⟩ | ⟨-, leads⟩
  · exact absurd ended failed
  cases leads with
  | done free put =>
    refine ⟨.of_write rooted (.refl _ _) put, fun kept => ⟨free kept, ?_⟩⟩
    exact Tree.look_of_write_new rooted (free kept) put

theorem dryRun_keepsFiles {request : GenerateRequest} (rooted : before.files.Rooted)
    (asked : run.command? = some (.generate request)) (dry : request.dryRun = true) :
    before.files.SameFiles (run.after before).files := by
  rcases leads_of_command asked (request.ends_run before run.time) with
    ⟨-, fault, leads⟩ | ⟨-, leads⟩
  · cases leads with
    | failed grows => exact (grows rooted).sameFiles
  · generalize run.after before = later at leads ⊢
    cases leads with
    | done loaded opened made output =>
      cases output with
      | preview => exact .refl _
      | unchanged real => exact absurd (dry.symm.trans real) nofun
      | written real => exact absurd (dry.symm.trans real) nofun

theorem keepsFiles (rooted : before.files.Rooted) : run.KeepsFiles before where
  failed := failed_keepsFiles rooted
  check := files_of_check
  dryRun := dryRun_keepsFiles rooted
  generate := generate_keepsFiles rooted
  init := init_keepsFiles rooted

variable (run) in
/-- A run leaves all files as they are, or ends well and stores what it is to store. -/
theorem files_of_run (rooted : before.files.Rooted) :
    before.files.SameFiles (run.after before).files ∨
      run.status before = 0 ∧ ∃ path text, run.Stores before path text ∧
        before.files.HoldsOnly (run.after before).files path text := by
  by_cases ended : run.status before = 0
  · cases asked : run.command? with
    | none =>
      rw [after_of_none asked]
      exact .inl (.refl _)
    | some command =>
      cases command with
      | generate request =>
        cases dry : request.dryRun with
        | true => exact .inl (dryRun_keepsFiles rooted asked dry)
        | false =>
          obtain ⟨path, text, stores, holds, -⟩ := generate_keepsFiles rooted asked dry ended
          exact .inr ⟨ended, path, text, stores, holds⟩
      | init request =>
        have holds := (init_keepsFiles rooted asked ended).1
        exact .inr ⟨ended, _, _, .template asked, holds⟩
      | check request => exact .inl (files_of_check asked ▸ .refl _)
  · exact .inl (failed_keepsFiles rooted ended)

theorem rooted_after (rooted : before.files.Rooted) : (run.after before).files.Rooted := by
  cases asked : run.command? with
  | none =>
    rw [after_of_none asked]
    exact rooted
  | some command =>
    cases command with
    | generate request =>
      rcases leads_of_command asked (request.ends_run before run.time) with
        ⟨-, fault, leads⟩ | ⟨-, leads⟩
      · cases leads with
        | failed grows => exact (grows rooted).rooted rooted
      · generalize run.after before = later at leads ⊢
        cases leads with
        | done loaded opened made output =>
          cases output with
          | preview => exact rooted
          | unchanged => exact rooted
          | written _ _ grows put => exact Tree.rooted_of_write ((grows rooted).rooted rooted) put
    | init request =>
      rcases leads_of_command asked (request.ends_run before) with ⟨-, fault, leads⟩ | ⟨-, leads⟩
      · cases leads with
        | failed same => exact same ▸ rooted
      · cases leads with
        | done _ put => exact Tree.rooted_of_write rooted put
    | check request =>
      rw [files_of_check asked]
      exact rooted

end Invocation

/-! ## Runs one after the other -/

/-- The machine after some runs. -/
def Machine.afterAll (machine : Machine) (history : List Invocation) : Machine :=
  history.foldl (fun machine run => run.after machine) machine

namespace Machine

variable {start : Machine} {history past : List Invocation}

theorem afterAll_concat (start : Machine) (past : List Invocation) (run : Invocation) :
    start.afterAll (past ++ [run]) = run.after (start.afterAll past) := by
  rw [afterAll, List.foldl_concat]
  rfl

theorem rooted_afterAll (rooted : start.files.Rooted) (history : List Invocation) :
    (start.afterAll history).files.Rooted := by
  induction history using List.reverseRecOn with
  | nil => exact rooted
  | append_singleton past run ih =>
    rw [afterAll_concat]
    exact Invocation.rooted_after ih

/-- In the course of some runs a file was stored with a content by one that ended well. -/
def StoredIn (start : Machine) (history : List Invocation) (way : List String)
    (content : Content) : Prop :=
  ∃ past run future path text, history = past ++ run :: future ∧
    run.Stores (start.afterAll past) path text ∧ run.status (start.afterAll past) = 0 ∧
    Path.way path = way ∧ content = .text text

theorem StoredIn.concat {way : List String} {content : Content}
    (stored : start.StoredIn past way content) (run : Invocation) :
    start.StoredIn (past ++ [run]) way content := by
  obtain ⟨before, storing, future, path, text, rfl, rest⟩ := stored
  exact ⟨before, storing, future ++ [run], path, text, by simp, rest⟩

/-- No file gets lost, and what a file holds after some runs it held before them, or a run that
ended well has stored it there. -/
theorem look_afterAll (rooted : start.files.Rooted) (history : List Invocation)
    (way : List String) :
    ((∃ content, start.files.look way = some (.file content)) →
      ∃ content, (start.afterAll history).files.look way = some (.file content)) ∧
    ∀ content, (start.afterAll history).files.look way = some (.file content) →
      start.files.look way = some (.file content) ∨ start.StoredIn history way content := by
  induction history using List.reverseRecOn with
  | nil => exact ⟨id, fun _ here => .inl here⟩
  | append_singleton past run ih =>
    obtain ⟨kept, origin⟩ := ih
    rw [afterAll_concat]
    have carried (same : Tree.SameFile way (start.afterAll past).files
        (run.after (start.afterAll past)).files) :
        ((∃ content, start.files.look way = some (.file content)) →
          ∃ content, (run.after (start.afterAll past)).files.look way = some (.file content)) ∧
        ∀ content, (run.after (start.afterAll past)).files.look way = some (.file content) →
          start.files.look way = some (.file content) ∨
            start.StoredIn (past ++ [run]) way content := by
      constructor
      · intro there
        obtain ⟨content, here⟩ := kept there
        exact ⟨content, (same content).mpr here⟩
      · intro content here
        rcases origin content ((same content).mp here) with before | stored
        · exact .inl before
        · exact .inr (stored.concat run)
    rcases Invocation.files_of_run run (rooted_afterAll rooted past) with
      same | ⟨ended, path, text, stores, holds⟩
    · exact carried (same way)
    · by_cases target : way = Path.way path
      · subst target
        refine ⟨fun _ => ⟨_, holds.here⟩, fun content here => .inr ?_⟩
        rw [holds.here] at here
        cases here
        exact ⟨past, run, [], path, text, rfl, stores, ended, rfl, rfl⟩
      · exact carried (holds.elsewhere way target)

/-- **Runs damage no files.** After any runs of the program, on any files to begin with, the next
one changes no file if it fails, checks or runs dry, and else only the file of its command, which
then holds what the command stores. So nothing is lost on the way, and every content that is found
was there from the start or has been stored by a run that ended well. -/
theorem runs_keep_files (entries : Tree.Entries) (printed : List String)
    (history : List Invocation) :
    let start : Machine := ⟨.folder entries, printed⟩
    let before := start.afterAll history
    (∀ run : Invocation, run.KeepsFiles before) ∧
      ∀ way, ((∃ content, start.files.look way = some (.file content)) →
          ∃ content, before.files.look way = some (.file content)) ∧
        ∀ content, before.files.look way = some (.file content) →
          start.files.look way = some (.file content) ∨ start.StoredIn history way content := by
  intro start before
  have rooted : start.files.Rooted := rfl
  exact ⟨fun run => Invocation.keepsFiles (rooted_afterAll rooted history),
    look_afterAll rooted history⟩

/-- A folder with a snapshot of nothing. -/
def snapshotOnly : Machine := ⟨.folder [("snap.json", .file (.text "\x7b\x7d"))], []⟩

def generating : Invocation := ⟨["generate", "snap.json"], ⟨0, 0⟩⟩

def starting : Invocation := ⟨["init", "--output", "settings.toml"], ⟨0, 0⟩⟩

/-- The folder with a module and a configuration. -/
def furnished : Machine := snapshotOnly.afterAll [generating, starting]

/-- Where a configuration was started none is started again, but a module can be. -/
theorem runs_keep_files_in_turn :
    generating.status snapshotOnly = 0 ∧
      (starting.status furnished ≠ 0 ∧
        furnished.files.SameFiles (starting.after furnished).files) ∧
      generating.status furnished = 0 ∧
      ∃ path text, generating.Stores furnished path text ∧
        furnished.files.HoldsOnly (generating.after furnished).files path text := by
  have keeps : ∀ run : Invocation, run.KeepsFiles furnished :=
    (runs_keep_files [("snap.json", .file (.text "\x7b\x7d"))] [] [generating, starting]).1
  have failed : starting.status furnished ≠ 0 := by decide +kernel
  have ended : generating.status furnished = 0 := by decide +kernel
  have dry : (CommandLine.generate? ["snap.json"]).map (·.dryRun) = some false := by
    decide +kernel
  obtain ⟨request, parsed, real⟩ := Option.map_eq_some_iff.mp dry
  have asked : generating.command? = some (.generate request) := by
    have words : generating.command? = (CommandLine.generate? ["snap.json"]).map .generate := rfl
    rw [words, parsed]
    rfl
  obtain ⟨path, text, stores, holds, -⟩ := (keeps generating).generate asked real ended
  exact ⟨by decide +kernel, ⟨failed, (keeps starting).failed failed⟩, ended, path, text, stores,
    holds⟩

end Machine

end SchemaSource
