import SchemaSource.Command
import SchemaSource.Proofs.Changes
import SchemaSource.Storage.Machine
/-!
Commands carried out on a machine. What a command finds depends on the files alone. All that a
command can come to is listed in one theorem for each: a module that is generated without fault is
stored at its path, a configuration is started where none is unless that is asked for, and a check
compares what it reads with what it generates and changes nothing.
-/
namespace SchemaSource

/-! ## Work on a machine -/

namespace Machine

/-- What some work comes to on a machine, and the machine after it. -/
def perform {ε α : Type} (machine : Machine) (work : ExceptT ε (StateM Machine) α) :
    Except ε α × Machine := work machine

variable {ε ε' α β : Type} (machine : Machine)

theorem perform_bind (work : ExceptT ε (StateM Machine) α)
    (next : α → ExceptT ε (StateM Machine) β) :
    machine.perform (work >>= next) =
      match machine.perform work with
      | (.ok a, later) => later.perform (next a)
      | (.error fault, later) => (.error fault, later) := by
  simp only [perform, bind, ExceptT.bind, ExceptT.mk, StateT.bind]
  cases work machine with
  | mk answer later => cases answer <;> rfl

theorem perform_adapt (wrap : ε → ε') (work : ExceptT ε (StateM Machine) α) :
    machine.perform (work.adapt wrap) =
      ((machine.perform work).1.mapError wrap, (machine.perform work).2) := rfl

theorem perform_bind_of {machine middle : Machine} {work : ExceptT ε (StateM Machine) α} {a : α}
    (done : machine.perform work = (.ok a, middle))
    (next : α → ExceptT ε (StateM Machine) β) :
    machine.perform (work >>= next) = middle.perform (next a) := by
  rw [perform_bind, done]

theorem perform_adapt_of {machine later : Machine} {work : ExceptT ε (StateM Machine) α} {a : α}
    (done : machine.perform work = (.ok a, later)) (wrap : ε → ε') :
    machine.perform (work.adapt wrap) = (.ok a, later) := by
  rw [perform_adapt, done]
  rfl

@[simp]
theorem perform_present (path : String) :
    machine.perform (Host.present path : ExceptT ε (StateM Machine) Bool) =
      (.ok (machine.files.contains path), machine) := rfl

@[simp]
theorem perform_read (path : String) :
    machine.perform (Host.read path : ExceptT ε (StateM Machine) _) =
      (.ok (machine.files.read path), machine) := rfl

@[simp]
theorem perform_say (line : String) :
    machine.perform (Host.say line : ExceptT ε (StateM Machine) Unit) =
      (.ok (), { machine with printed := machine.printed ++ [line] }) := rfl

theorem perform_say_all (lines : List String) :
    machine.perform (lines.forM Host.say : ExceptT ε (StateM Machine) PUnit) =
      (.ok (), { machine with printed := machine.printed ++ lines }) := by
  induction lines generalizing machine with
  | nil =>
    rw [List.append_nil]
    rfl
  | cons line rest ih =>
    have first : (line :: rest).forM (Host.say (m := ExceptT ε (StateM Machine))) =
        (do Host.say line; rest.forM Host.say) := rfl
    rw [first, perform_bind, perform_say]
    dsimp only
    rw [ih, List.append_assoc]
    rfl

/-! ### Whatever it comes to -/

/-- What some work comes to, well or not, and the machine after it. -/
def Ends (work : ExceptT ε (StateM Machine) α) (post : Except ε α → Machine → Prop) : Prop :=
  post (machine.perform work).1 (machine.perform work).2

section Ends

variable {machine} {post : Except ε β → Machine → Prop}

/-- Work in two steps fails with the first, or goes on with what the first comes to. -/
theorem Ends.bind {work : ExceptT ε (StateM Machine) α}
    {next : α → ExceptT ε (StateM Machine) β} {middle : Except ε α → Machine → Prop}
    (first : machine.Ends work middle)
    (failed : ∀ fault later, middle (.error fault) later → post (.error fault) later)
    (rest : ∀ a later, middle (.ok a) later → later.Ends (next a) post) :
    machine.Ends (work >>= next) post := by
  unfold Ends at first ⊢
  rw [perform_bind]
  cases outcome : machine.perform work with
  | mk answer later =>
    rw [outcome] at first
    cases answer with
    | error fault => exact failed fault later first
    | ok a => exact rest a later first

/-- Work that only looks at the machine goes on where it was. -/
theorem Ends.look {work : ExceptT ε (StateM Machine) α} {answer : Except ε α}
    {next : α → ExceptT ε (StateM Machine) β} (looks : machine.perform work = (answer, machine))
    (failed : ∀ fault, answer = .error fault → post (.error fault) machine)
    (rest : ∀ a, answer = .ok a → machine.Ends (next a) post) :
    machine.Ends (work >>= next) post := by
  have first : machine.Ends work fun outcome later => outcome = answer ∧ later = machine := by
    rw [Ends, looks]
    exact ⟨rfl, rfl⟩
  refine first.bind ?_ ?_
  · rintro fault later ⟨same, rfl⟩
    exact failed fault same.symm
  · rintro a later ⟨same, rfl⟩
    exact rest a same.symm

theorem Ends.present {path : String} {next : Bool → ExceptT ε (StateM Machine) β}
    (rest : machine.Ends (next (machine.files.contains path)) post) :
    machine.Ends (Host.present path >>= next) post :=
  .look (machine.perform_present path) nofun fun _ same => Except.ok.inj same ▸ rest

theorem Ends.read {path : String}
    {next : Except StorageFault String → ExceptT ε (StateM Machine) β}
    (rest : machine.Ends (next (machine.files.read path)) post) :
    machine.Ends (Host.read path >>= next) post :=
  .look (machine.perform_read path) nofun fun _ same => Except.ok.inj same ▸ rest

theorem ok_of_mapError {wrap : ε → ε'} {answer : Except ε α} {a : α}
    (wrapped : answer.mapError wrap = .ok a) : answer = .ok a := by
  cases answer with
  | error fault => cases wrapped
  | ok value =>
    cases wrapped
    rfl

/-- Looking may fail, under any name, and goes on where it was otherwise. -/
theorem Ends.lookAs {work : ExceptT ε (StateM Machine) α} {answer : Except ε α}
    {wrap : ε → ε'} {next : α → ExceptT ε' (StateM Machine) β}
    {post : Except ε' β → Machine → Prop} (looks : machine.perform work = (answer, machine))
    (failed : ∀ fault, post (.error fault) machine)
    (rest : ∀ a, answer = .ok a → machine.Ends (next a) post) :
    machine.Ends (work.adapt wrap >>= next) post := by
  have wrapped : machine.perform (work.adapt wrap) = (answer.mapError wrap, machine) := by
    rw [perform_adapt, looks]
  exact Ends.look wrapped (fun fault _ => failed fault) fun a same => rest a (ok_of_mapError same)

/-- Lines change no files. -/
theorem Ends.sayAll {lines : List String} {next : PUnit → ExceptT ε (StateM Machine) β}
    (rest : ∀ later : Machine, later.files = machine.files → later.Ends (next ()) post) :
    machine.Ends (lines.forM Host.say >>= next) post := by
  rw [Ends, perform_bind_of (machine.perform_say_all lines)]
  exact rest _ rfl

theorem Ends.say {line : String} {next : Unit → ExceptT ε (StateM Machine) β}
    (rest : ∀ later : Machine, later.files = machine.files → later.Ends (next ()) post) :
    machine.Ends (Host.say line >>= next) post := by
  rw [Ends, perform_bind_of (machine.perform_say line)]
  exact rest _ rfl

theorem Ends.throw {fault : ε} {next : α → ExceptT ε (StateM Machine) β}
    (failed : post (.error fault) machine) :
    machine.Ends ((MonadExcept.throw fault : ExceptT ε (StateM Machine) α) >>= next) post :=
  failed

end Ends

end Machine

/-! ## What commands find -/

namespace Tree

def readConfig (files : Tree) (path : String) : Except ConfigFault Config :=
  match files.read path with
  | .error fault => .error (.unreadable path fault)
  | .ok text =>
    match Config.ofText? text with
    | some config => .ok config
    | none => .error (.invalidToml path)

/-- The configuration that a command uses on these files. -/
def configAt (files : Tree) : Option String → Except ConfigFault Config
  | some path => if files.contains path then files.readConfig path else .error (.notFound path)
  | none =>
    if files.contains Config.defaultFile then files.readConfig Config.defaultFile else .ok {}

/-- The named values that a command loads from these files. -/
def snapshotAt (files : Tree) (path : String) : Except SnapshotFault Fields :=
  if files.contains path then
    match files.read path with
    | .error fault => .error (.unreadable path fault)
    | .ok text => Snapshot.ofText text
  else .error (.notFound path)

end Tree

namespace Machine

open Command

variable (machine : Machine)

theorem perform_readConfig (path : String) :
    machine.perform (readConfig path) = (machine.files.readConfig path, machine) := by
  unfold readConfig Tree.readConfig
  rw [perform_bind, perform_read]
  dsimp only
  cases machine.files.read path with
  | error fault => rfl
  | ok text =>
    dsimp only
    cases Config.ofText? text <;> rfl

theorem perform_findConfig (path? : Option String) :
    machine.perform (findConfig path?) = (machine.files.configAt path?, machine) := by
  unfold findConfig Tree.configAt
  cases path? with
  | some path =>
    dsimp only
    rw [perform_bind, perform_present]
    dsimp only
    split
    · exact machine.perform_readConfig path
    · rfl
  | none =>
    dsimp only
    rw [perform_bind, perform_present]
    dsimp only
    split
    · exact machine.perform_readConfig Config.defaultFile
    · rfl

theorem perform_openSnapshot (path : String) :
    machine.perform (openSnapshot path) = (machine.files.snapshotAt path, machine) := by
  unfold openSnapshot Tree.snapshotAt
  rw [perform_bind, perform_present]
  dsimp only
  split
  · rw [perform_bind, perform_read]
    dsimp only
    cases machine.files.read path with
    | error fault => rfl
    | ok text =>
      dsimp only
      cases Snapshot.ofText text <;> rfl
  · rfl

theorem perform_makeModule (config : Config) (time : Instant) (values : Fields) :
    machine.perform (makeModule config time values) =
      ((config.generate time values).mapError .filter, machine) := by
  unfold makeModule
  cases config.generate time values <;> rfl

/-! ## Storing modules -/

theorem perform_write (path content : String) :
    machine.perform (Host.write path content : ExceptT ε (StateM Machine) _) =
      match machine.files.write path (.text content) with
      | .ok files => (.ok (.ok ()), { machine with files })
      | .error fault => (.ok (.error fault), machine) := by
  have done : machine.perform (Host.write path content : ExceptT ε (StateM Machine) _) =
      (.ok (settle (fun files => files.write path (.text content)) machine).1,
        (settle (fun files => files.write path (.text content)) machine).2) := rfl
  rw [done, settle]
  cases machine.files.write path (.text content) <;> rfl

theorem perform_createPath (path : String) :
    machine.perform (Host.createPath path : ExceptT ε (StateM Machine) _) =
      (.ok (machine.files.createPath path).2,
        { machine with files := (machine.files.createPath path).1 }) := rfl

end Machine

/-- What becomes of files where a text is to be written to a path. -/
inductive Output.Leads (before : Tree) (dryRun : Bool) (path content : String) :
    Except OutputFault OutputResult → Tree → Prop
  | preview (asked : dryRun = true) : Leads before dryRun path content
      (.ok (.preview path content)) before
  | unchanged (real : dryRun = false) (held : before.read path = .ok content) :
      Leads before dryRun path content (.ok (.unchanged path)) before
  | written {middle after : Tree} (real : dryRun = false)
      (other : before.read path ≠ .ok content)
      (grows : before.Rooted → before.Grows middle (Path.stops path))
      (put : middle.write path (.text content) = .ok after) :
      Leads before dryRun path content (.ok (.written path content.utf8ByteSize)) after
  | failed {fault : OutputFault} {after : Tree}
      (grows : before.Rooted → before.Grows after (Path.stops path)) :
      Leads before dryRun path content (.error fault) after

namespace Machine

variable {machine : Machine}

theorem perform_holds {ε : Type} (path content : String) :
    machine.perform (Output.holds path content : ExceptT ε (StateM Machine) Bool) =
      (.ok (decide (machine.files.read path = .ok content)), machine) := by
  unfold Output.holds
  rw [perform_bind, perform_read]
  dsimp only
  cases machine.files.read path with
  | error fault => exact congrArg (fun held => (Except.ok held, machine)) (by simp)
  | ok existing =>
    exact congrArg (fun held => (Except.ok held, machine))
      (by simp [Except.ok.injEq, beq_eq_decide])

/-- Preparing the folder of a path adds no more than folders, also if it fails. -/
theorem ends_prepareFolder (path : String) :
    machine.Ends (Output.prepareFolder path) fun _ later =>
      machine.files.Rooted → machine.files.Grows later.files (Path.stops path) := by
  have same : machine.files.Rooted → machine.files.Grows machine.files (Path.stops path) :=
    fun _ => .refl _ _
  unfold Output.prepareFolder
  split
  · exact same
  · exact same
  · next parent _ higher =>
    apply Ends.present
    split
    · exact same
    · have grows (rooted : machine.files.Rooted) := Tree.createPath_grows higher rooted
      unfold Ends
      rw [perform_bind, perform_createPath]
      dsimp only
      split
      · exact grows
      · exact grows

theorem ends_write (machine : Machine) (dryRun : Bool) (path content : String) :
    machine.Ends (Output.write dryRun path content) fun answer later =>
      Output.Leads machine.files dryRun path content answer later.files := by
  unfold Output.write
  cases dryRun with
  | true => exact .preview rfl
  | false =>
    rw [if_neg Bool.false_ne_true]
    refine Ends.look (perform_holds path content) nofun ?_
    intro held same
    cases same
    split
    next held => exact .unchanged rfl (of_decide_eq_true held)
    next other =>
      have other : machine.files.read path ≠ .ok content := by simpa using other
      refine (ends_prepareFolder path).bind ?_ ?_
      · intro fault later grows
        exact .failed grows
      · intro _ later grows
        unfold Ends
        rw [perform_bind, perform_write]
        cases put : later.files.write path (.text content) with
        | ok after => exact .written rfl other grows put
        | error fault => exact .failed grows

end Machine

/-! ## Generating, starting and checking -/

open Command Machine

/-- What becomes of files and lines where a module is to be generated. -/
inductive GenerateRequest.Leads (request : GenerateRequest) (time : Instant) (before : Tree) :
    Except CommandFault Unit → Machine → Prop
  | failed {fault : CommandFault} {later : Machine} {ways : List (List String)}
      (grows : before.Rooted → before.Grows later.files ways) :
      Leads request time before (.error fault) later
  | done {config : Config} {values : Fields} {module : Module} {result : OutputResult}
      {after : Tree} {printed : List String}
      (loaded : before.configAt request.config = .ok config)
      (opened : before.snapshotAt request.snapshot = .ok values)
      (made : (config.override request.overrides).generate time values = .ok module)
      (output : Output.Leads before request.dryRun
        (config.override request.overrides).output.file module.code (.ok result) after) :
      Leads request time before (.ok ()) ⟨after, printed ++ outcome result⟩

theorem GenerateRequest.ends_run (machine : Machine) (request : GenerateRequest)
    (time : Instant) :
    machine.Ends (request.run time) (request.Leads time machine.files) := by
  have failed (machine : Machine) (fault : CommandFault) :
      request.Leads time machine.files (.error fault) machine :=
    .failed fun _ => .refl _ []
  unfold GenerateRequest.run
  refine Ends.lookAs (perform_findConfig _ _) (failed machine) ?_
  intro config loaded
  refine Ends.say fun begun same => ?_
  rw [← same] at loaded ⊢
  refine Ends.lookAs (perform_openSnapshot _ _) (failed begun) ?_
  intro values opened
  refine Ends.say fun found same => Ends.say fun started same' => ?_
  rw [← same, ← same'] at loaded opened ⊢
  refine Ends.look (perform_makeModule _ _ _ _) (fun fault _ => failed started fault) ?_
  intro module made
  refine Ends.sayAll fun told same => ?_
  rw [← same] at loaded opened ⊢
  -- All that is left is the output, and the lines that tell what became of it.
  have output := told.ends_write request.dryRun
    (config.override request.overrides).output.file module.code
  unfold Ends at output ⊢
  rw [perform_bind, perform_adapt]
  cases written : told.perform (Output.write request.dryRun
    (config.override request.overrides).output.file module.code) with
  | mk answer later =>
    rw [written] at output
    cases answer with
    | error fault =>
      cases output with
      | failed grows => exact .failed grows
    | ok result =>
      dsimp only [Except.mapError]
      rw [perform_say_all]
      exact .done loaded opened (ok_of_mapError made) output

/-- A module that is generated without fault is the one that the configuration asks for, made of the
snapshot's values, and it is stored at the path of the output. -/
theorem GenerateRequest.stored_of_run {request : GenerateRequest} {time : Instant}
    {machine later : Machine} (real : request.dryRun = false)
    (done : machine.perform (request.run time) = (.ok (), later)) :
    ∃ config values result, machine.files.configAt request.config = .ok config ∧
      machine.files.snapshotAt request.snapshot = .ok values ∧
      (config.override request.overrides).generate time values = .ok result ∧
      (machine.files.Rooted → machine.files.Stored later.files
        (config.override request.overrides).output.file result.code) := by
  have leads := request.ends_run machine time
  rw [Ends, done] at leads
  cases leads with
  | done loaded opened made output =>
    refine ⟨_, _, _, loaded, opened, made, fun rooted => ?_⟩
    cases output with
    | preview dry =>
      rw [real] at dry
      cases dry
    | unchanged _ held => exact .of_read held
    | written _ _ grows put => exact .of_write rooted (grows rooted) put

/-- What becomes of files where a configuration is to be started. -/
inductive InitRequest.Leads (request : InitRequest) (before : Tree) :
    Except CommandFault Unit → Machine → Prop
  | failed {fault : CommandFault} {later : Machine} (same : later.files = before) :
      Leads request before (.error fault) later
  | done {later : Machine}
      (free : request.force = false → before.contains request.output = false)
      (put : before.write request.output (.text Config.template) = .ok later.files) :
      Leads request before (.ok ()) later

theorem InitRequest.ends_run (machine : Machine) (request : InitRequest) :
    machine.Ends request.run (request.Leads machine.files) := by
  unfold InitRequest.run
  apply Ends.present
  split
  next => exact Ends.say fun later same => Ends.throw (.failed same)
  next goes =>
    have free : request.force = false → machine.files.contains request.output = false := by
      simpa using goes
    unfold Ends
    rw [perform_bind, perform_write]
    cases put : machine.files.write request.output (.text Config.template) with
    | error fault => exact .failed rfl
    | ok files => exact .done free put

/-- A check changes no files, whatever it comes to. -/
theorem CheckRequest.ends_run (machine : Machine) (request : CheckRequest) (time : Instant) :
    machine.Ends (request.run time) fun _ later => later.files = machine.files := by
  unfold CheckRequest.run
  refine Ends.say fun begun same => ?_
  rw [← same]
  refine Ends.lookAs (perform_findConfig _ _) (fun _ => rfl) ?_
  intro config _
  apply Ends.present
  split
  next =>
    apply Ends.read
    split
    next => rfl
    next =>
      refine Ends.lookAs (perform_openSnapshot _ _) (fun _ => rfl) ?_
      intro values _
      refine Ends.look (perform_makeModule _ _ _ _) (fun _ _ => rfl) ?_
      intro module _
      split
      · rfl
      · exact Ends.say fun told same => Ends.say fun advised same' => same'.trans same
  next => rfl

/-- A check reads the configuration, the module and the snapshot, and tells whether the module is
what would be generated now. It leaves the files alone. -/
theorem CheckRequest.perform_run {request : CheckRequest} (machine : Machine) (time : Instant)
    {config : Config} {existing : String} {values : Fields} {result : Module}
    (loaded : machine.files.configAt request.config = .ok config)
    (reads : machine.files.read (request.output.getD config.output.file) = .ok existing)
    (opened : machine.files.snapshotAt request.snapshot = .ok values)
    (made : (config.override { output := request.output, version := request.version }).generate time
      values = .ok result) (same : agree existing result.code = true) :
    ∃ lines, machine.perform (request.run time) =
      (.ok (), { machine with printed := machine.printed ++ lines }) := by
  have present := Tree.contains_of_read reads
  refine ⟨["Checking generated module...",
    "✓ " ++ request.output.getD config.output.file ++ " is up-to-date"], ?_⟩
  unfold CheckRequest.run
  rw [perform_bind_of (perform_say _ _)]
  generalize told : Machine.mk machine.files
    (machine.printed ++ ["Checking generated module..."]) = begun
  have files : machine.files = begun.files := by rw [← told]
  rw [files] at loaded opened reads present
  have looked := begun.perform_findConfig request.config
  rw [loaded] at looked
  rw [perform_bind_of (perform_adapt_of looked _)]
  dsimp only
  rw [perform_bind_of (a := true) (present ▸ perform_present _ _), if_pos rfl,
    perform_bind_of (a := .ok existing) (reads ▸ perform_read _ _)]
  have looked := begun.perform_openSnapshot request.snapshot
  rw [opened] at looked
  dsimp only
  rw [perform_bind_of (perform_adapt_of looked _)]
  have module := begun.perform_makeModule (config.override
    { output := request.output, version := request.version }) time values
  rw [made] at module
  rw [perform_bind_of module, if_pos same, perform_say, ← told]
  simp only [List.append_assoc, List.cons_append, List.nil_append]
  rfl

end SchemaSource
