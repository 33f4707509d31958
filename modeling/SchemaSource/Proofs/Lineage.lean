import SchemaSource.Proofs.Registrations
import SchemaSource.Session
/-!
What the renderer of a name goes back to. A renderer is settled by the registrations since it was
made or, for a copy, also by those of its source up to the copy. No other step changes an answer
about it, and every answer can be told from them.
-/
namespace SchemaSource.Session

/-! ## One step -/

section Steps

variable (session : Session) (name other : String) (renderer : Renderer)

theorem get?_set :
    (session.set name renderer).get? other =
      if other = name then some renderer else session.get? other := by
  unfold set get?
  by_cases same : other = name
  · simp [same]
  · have head : (name == other) = false := by simpa using Ne.symm same
    rw [if_neg same, List.find?_cons, head, List.find?_filter]
    congr 1
    refine congrArg (fun test => List.find? test session.renderers) (funext fun entry => ?_)
    by_cases named : entry.1 = other <;> simp [named, same]

/-- A step leaves the renderers of all other names alone. -/
theorem get?_step (step : Step) (apart : other ≠ step.name) :
    (session.step step).1.get? other = session.get? other := by
  obtain ⟨name, action⟩ := step
  have kept (renderer : Renderer) : (session.set name renderer).get? other = session.get? other :=
    (get?_set ..).trans (if_neg apart)
  cases action with
  | create dialect => exact kept _
  | copy source =>
    simp only [Session.step]
    cases session.get? source with
    | none => rfl
    | some renderer => exact kept _
  | register tag handler =>
    simp only [Session.step]
    cases session.get? name with
    | none => rfl
    | some renderer => exact kept _
  | ask query =>
    simp only [Session.step]
    cases session.get? name <;> rfl

end Steps

/-- The name whose renderer a step reads. -/
def Step.reads : Step → Option String
  | ⟨_, .create _⟩ => none
  | ⟨_, .copy source⟩ => some source
  | ⟨name, .register _ _⟩ | ⟨name, .ask _⟩ => some name

section Same

variable {s t : Session} {step : Step}

/-- The answer to a step depends on the session only through what the step reads. -/
theorem answer_congr (read : ∀ name ∈ step.reads, s.get? name = t.get? name) :
    (s.step step).2 = (t.step step).2 := by
  obtain ⟨name, action⟩ := step
  cases action with
  | create dialect => rfl
  | copy source =>
    simp only [Session.step, read source rfl]
    cases t.get? source <;> rfl
  | register tag handler =>
    simp only [Session.step, read name rfl]
    cases t.get? name <;> rfl
  | ask query =>
    simp only [Session.step, read name rfl]
    cases t.get? name <;> rfl

/-- So does what it makes of its name, which stays as it is where the step fails. -/
theorem get?_step_congr (own : s.get? step.name = t.get? step.name)
    (read : ∀ name ∈ step.reads, s.get? name = t.get? name) :
    (s.step step).1.get? step.name = (t.step step).1.get? step.name := by
  obtain ⟨name, action⟩ := step
  cases action with
  | create dialect => simp [Session.step, get?_set]
  | copy source =>
    simp only [Session.step, read source rfl]
    cases t.get? source with
    | none => exact own
    | some renderer => simp [get?_set]
  | register tag handler =>
    simp only [Session.step, read name rfl]
    cases t.get? name with
    | none => exact own
    | some renderer => simp [get?_set]
  | ask query =>
    simp only [Session.step, read name rfl]
    cases t.get? name <;> exact own

end Same

/-! ## Steps on other names -/

section Names

variable (names : String → Bool)

/-- Two sessions keep the same renderers under some names. -/
def AgreeOn (s t : Session) : Prop := ∀ name, names name = true → s.get? name = t.get? name

/-- No renderer of these names is made a copy of one outside of them. -/
def Closed (steps : List Step) : Prop :=
  ∀ step ∈ steps, names step.name = true → ∀ source, step.action = .copy source →
    names source = true

/-- The answers to the steps on some names, among those to all steps. -/
def answersFor (session : Session) (steps : List Step) : List Answer :=
  ((steps.zip (session.run steps)).filter fun entry => names entry.1.name).map (·.2)

theorem answersFor_cons (session : Session) (step : Step) (rest : List Step) :
    answersFor names session (step :: rest) =
      if names step.name then
        (session.step step).2 :: answersFor names (session.step step).1 rest
      else answersFor names (session.step step).1 rest := by
  unfold answersFor
  rw [run, List.zip_cons_cons, List.filter_cons]
  split <;> rfl

variable {names}

theorem AgreeOn.step_outside {s t : Session} {step : Step} (agree : AgreeOn names s t)
    (outside : ¬ names step.name = true) : AgreeOn names (s.step step).1 t := by
  intro name member
  rw [get?_step s name step (by rintro rfl; exact outside member)]
  exact agree name member

/-- Both sessions give one answer to a step on these names, and still agree after it. -/
theorem AgreeOn.step_inside {s t : Session} {step : Step} (agree : AgreeOn names s t)
    (inside : names step.name = true)
    (closed : ∀ source, step.action = .copy source → names source = true) :
    (s.step step).2 = (t.step step).2 ∧ AgreeOn names (s.step step).1 (t.step step).1 := by
  have read : ∀ name ∈ step.reads, s.get? name = t.get? name := by
    intro name member
    refine agree name ?_
    obtain ⟨own, action⟩ := step
    cases action with
    | create dialect => cases member
    | copy source =>
      cases member
      exact closed name rfl
    | register tag handler =>
      cases member
      exact inside
    | ask query =>
      cases member
      exact inside
  refine ⟨answer_congr read, fun name member => ?_⟩
  by_cases same : name = step.name
  · rw [same]
    exact get?_step_congr (agree step.name inside) read
  · rw [get?_step s name step same, get?_step t name step same]
    exact agree name member

/-- The steps on other names can be left out. -/
theorem AgreeOn.answersFor {s t : Session} {steps : List Step} (agree : AgreeOn names s t)
    (closed : Closed names steps) :
    Session.answersFor names s steps = t.run (steps.filter fun step => names step.name) := by
  induction steps generalizing s t with
  | nil => rfl
  | cons step rest ih =>
    have later : Closed names rest := fun next member => closed next (List.mem_cons_of_mem _ member)
    rw [answersFor_cons, List.filter_cons]
    by_cases inside : names step.name = true
    · obtain ⟨answer, kept⟩ := agree.step_inside inside (closed step List.mem_cons_self inside)
      rw [if_pos inside, if_pos inside, run, answer, ih kept later]
    · rw [if_neg inside, if_neg inside]
      exact ih (agree.step_outside inside) later

end Names

/-! ## Lineages -/

/-- The session after some steps, of which the latest is given first. -/
def after : List Step → Session
  | [] => empty
  | step :: earlier => ((after earlier).step step).1

/-- Some step makes a new renderer. -/
def founded (steps : List Step) : Bool :=
  steps.any fun step => match step.action with
    | .create _ => true
    | _ => false

/-- The steps that the renderer of a name goes back to, the latest first: its registrations since
it was made, and how it was made. For a copy, the steps that its source went back to stand there as
well. A copy of a name without a renderer makes nothing. -/
def lineage : List Step → String → List Step
  | [], _ => []
  | step :: earlier, name =>
    if step.name = name then
      match step.action with
      | .create _ => [step]
      | .copy source =>
        if founded (lineage earlier source) then step :: lineage earlier source
        else lineage earlier name
      | .register _ _ => step :: lineage earlier name
      | .ask _ => lineage earlier name
    else lineage earlier name

/-- The renderer that a lineage makes. -/
def renderer? : List Step → Option Renderer
  | [] => none
  | ⟨_, .create dialect⟩ :: _ => some (.ofDialect dialect)
  | ⟨_, .register tag handler⟩ :: earlier => (renderer? earlier).map (·.register tag handler)
  | ⟨_, .copy _⟩ :: earlier | ⟨_, .ask _⟩ :: earlier => renderer? earlier

/-- What a lineage registers, the latest first. -/
def registrations : List Step → List (Tag × Handler)
  | [] => []
  | ⟨_, .create _⟩ :: _ => []
  | ⟨_, .register tag handler⟩ :: earlier => (tag, handler) :: registrations earlier
  | ⟨_, .copy _⟩ :: earlier | ⟨_, .ask _⟩ :: earlier => registrations earlier

theorem isSome_renderer? (steps : List Step) : (renderer? steps).isSome = founded steps := by
  induction steps with
  | nil => rfl
  | cons step earlier ih =>
    obtain ⟨name, action⟩ := step
    cases action <;> simp [renderer?, founded] <;> exact ih

/-- **The renderer of a name is the one that its lineage makes.** -/
theorem get?_after (past : List Step) (name : String) :
    (after past).get? name = renderer? (lineage past name) := by
  induction past generalizing name with
  | nil => rfl
  | cons step earlier ih =>
    by_cases own : step.name = name
    · obtain ⟨_, action⟩ := step
      subst own
      cases action with
      | create dialect => simp [after, Session.step, get?_set, lineage, renderer?]
      | copy source =>
        have founds := isSome_renderer? (lineage earlier source)
        simp only [after, Session.step, lineage, ih source, if_true, ← founds]
        cases made : renderer? (lineage earlier source) with
        | none => exact ih _
        | some renderer => simp [get?_set, renderer?, made]
      | register tag handler =>
        simp only [after, Session.step, lineage, ih, if_true, renderer?]
        cases made : renderer? (lineage earlier _) with
        | none => exact (ih _).trans made
        | some renderer => simp [get?_set]
      | ask query =>
        simp only [after, Session.step, lineage, if_true]
        cases (after earlier).get? _ <;> exact ih _
    · rw [after, get?_step _ _ _ (Ne.symm own), ih, lineage, if_neg own]

theorem lineage_sublist (past : List Step) (name : String) : (lineage past name).Sublist past := by
  induction past generalizing name with
  | nil => exact List.Sublist.refl _
  | cons step earlier ih =>
    unfold lineage
    split
    · split
      · exact (List.nil_sublist _).cons_cons _
      · split
        · exact (ih _).cons_cons _
        · exact (ih _).cons _
      · exact (ih _).cons_cons _
      · exact (ih _).cons _
    · exact (ih _).cons _

/-- A lineage is all that its name goes back to, also when nothing else has happened. -/
theorem lineage_lineage (past : List Step) (name : String) :
    lineage (lineage past name) name = lineage past name := by
  induction past generalizing name with
  | nil => rfl
  | cons step earlier ih =>
    by_cases own : step.name = name
    · obtain ⟨_, action⟩ := step
      subst own
      cases action with
      | create dialect => simp [lineage]
      | copy source =>
        by_cases found : founded (lineage earlier source) = true
        · simp [lineage, found, ih]
        · simp [lineage, found, ih]
      | register tag handler => simp [lineage, ih]
      | ask query => simp [lineage, ih]
    · simp only [lineage, own, if_false, ih]

/-- The dialect of the renderer that a lineage makes. -/
def dialect? : List Step → Option Dialect
  | [] => none
  | ⟨_, .create dialect⟩ :: _ => some dialect
  | ⟨_, .register _ _⟩ :: earlier | ⟨_, .copy _⟩ :: earlier | ⟨_, .ask _⟩ :: earlier =>
    dialect? earlier

theorem renderer?_eq (steps : List Step) :
    renderer? steps =
      (dialect? steps).map fun dialect => ⟨dialect, .extended (registrations steps)⟩ := by
  induction steps with
  | nil => rfl
  | cons step earlier ih =>
    obtain ⟨name, action⟩ := step
    cases action with
    | create dialect => rfl
    | copy source | ask query => exact ih
    | register tag handler =>
      rw [renderer?, ih, Option.map_map]
      rfl

/-! ## Answers -/

/-- What a query tells of a renderer in a dialect with some registrations. Whatever registry serves
the same handlers renders to the same text. -/
inductive Query.Tells (dialect : Dialect) (registrations : List (Tag × Handler)) :
    Query → Answer → Prop
  | render {options : Options} {value : Value} {result : Except RenderFault String}
      (rendered : ∀ registry : Registry,
        (∀ tag, registry.get? tag = Registry.latest? registrations tag) →
          result = Renderer.render ⟨dialect, registry⟩ options value) :
      Tells dialect registrations (.render options value) (.rendered result)
  | build {settings : ModuleSettings} {options : Options} {values : Fields} {result : Module}
      (built : ∀ registry : Registry,
        (∀ tag, registry.get? tag = Registry.latest? registrations tag) →
          result = settings.build ⟨dialect, registry⟩ options values) :
      Tells dialect registrations (.build settings options values) (.built result)
  | serves {tag : Tag} {answer : Bool}
      (served : answer = true ↔ Registry.Served registrations tag) :
      Tells dialect registrations (.serves tag) (.serves answer)
  | describe {names : List String} (lists : Registry.Lists registrations names) :
      Tells dialect registrations .describe
        (.described dialect.version (39 + (Registry.newTags registrations).length)
          (Text.describeRecord "Serializer" [("version", dialect.version.describe),
            ("handlers", Registry.describeNames names)] true))

/-- What a step is answered after others, by the lineages of the renderers alone. -/
inductive Step.Tells (past : List Step) : Step → Answer → Prop
  | create {name : String} {dialect : Dialect} : Tells past ⟨name, .create dialect⟩ (.size 39)
  | copy {name source : String} (found : founded (lineage past source) = true) :
      Tells past ⟨name, .copy source⟩ .done
  | register {name : String} {tag : Tag} {handler : Handler}
      (found : founded (lineage past name) = true) :
      Tells past ⟨name, .register tag handler⟩ (.size (39 +
        (Registry.newTags ((tag, handler) :: registrations (lineage past name))).length))
  | ask {name : String} {query : Query} {answer : Answer} {dialect : Dialect}
      (found : dialect? (lineage past name) = some dialect)
      (tells : query.Tells dialect (registrations (lineage past name)) answer) :
      Tells past ⟨name, .ask query⟩ answer
  | unknown {step : Step} {name : String} (reads : step.reads = some name)
      (missing : founded (lineage past name) = false) : Tells past step (.unknown name)

theorem Query.tells_answer (dialect : Dialect) (registrations : List (Tag × Handler))
    (query : Query) :
    query.Tells dialect registrations
      (query.answer ⟨dialect, .extended registrations⟩) := by
  have holds := Registry.holds_extended registrations
  have alike (registry : Registry)
      (serves : ∀ tag, registry.get? tag = Registry.latest? registrations tag) (name : String) :
      (Registry.extended registrations).get? (.ofName name) = registry.get? (.ofName name) :=
    (holds.handler _).trans (serves _).symm
  cases query with
  | render options value =>
    exact .render fun registry serves =>
      Renderer.render_eq_of_get? dialect (alike registry serves) options value
  | build settings options values =>
    refine .build fun registry serves => ?_
    unfold ModuleSettings.build ModuleSettings.dispose
    simp only [Renderer.render_eq_of_get? dialect (alike registry serves) options]
  | serves tag => exact .serves (holds.contains tag)
  | describe =>
    obtain ⟨names, lists, described⟩ := holds.listed
    rw [answer, Renderer.describe, holds.size, described]
    exact .describe lists

theorem founded_iff (steps : List Step) :
    founded steps = true ↔ ∃ dialect, dialect? steps = some dialect := by
  rw [← isSome_renderer?, renderer?_eq, Option.isSome_map, Option.isSome_iff_exists]

/-- **Every answer can be told from lineages.** -/
theorem tells_answer (past : List Step) (step : Step) :
    step.Tells past ((after past).step step).2 := by
  have kept (name : String) : (after past).get? name = _ :=
    (get?_after past name).trans (renderer?_eq _)
  have missing {name : String} (none : dialect? (lineage past name) = none) :
      founded (lineage past name) = false := by
    rw [Bool.eq_false_iff, ne_eq, founded_iff, none]
    rintro ⟨_, ⟨⟩⟩
  obtain ⟨name, action⟩ := step
  cases action with
  | create dialect => exact .create
  | copy source =>
    rw [Session.step, kept]
    cases found : dialect? (lineage past source) with
    | none => exact .unknown rfl (missing found)
    | some dialect => exact .copy ((founded_iff _).mpr ⟨dialect, found⟩)
  | register tag handler =>
    rw [Session.step, kept]
    cases found : dialect? (lineage past name) with
    | none => exact .unknown rfl (missing found)
    | some dialect =>
      have size := Registry.size_extended ((tag, handler) :: registrations (lineage past name))
      have registered : Step.Tells past ⟨name, .register tag handler⟩ _ :=
        .register ((founded_iff _).mpr ⟨dialect, found⟩)
      rw [← size] at registered
      exact registered
  | ask query =>
    rw [Session.step, kept]
    cases found : dialect? (lineage past name) with
    | none => exact .unknown rfl (missing found)
    | some dialect => exact .ask found (query.tells_answer dialect _)

/-- The steps that the answer to a step goes back to: those of the renderer that it reads. -/
def origins (past : List Step) (step : Step) : List Step :=
  match step.reads with
  | none => []
  | some name => lineage past name

theorem answer_of_origins {past past' : List Step} {step : Step}
    (same : origins past step = origins past' step) :
    ((after past).step step).2 = ((after past').step step).2 := by
  refine answer_congr fun name member => ?_
  unfold origins at same
  rw [Option.mem_def.mp member] at same
  rw [get?_after, get?_after]
  exact congrArg renderer? same

/-! ## Runs -/

theorem length_run (session : Session) (steps : List Step) :
    (session.run steps).length = steps.length := by
  induction steps generalizing session with
  | nil => rfl
  | cons step rest ih => rw [run, List.length_cons, ih, List.length_cons]

theorem run_reverse_append (past later : List Step) :
    empty.run (past.reverse ++ later) = empty.run past.reverse ++ (after past).run later := by
  induction past generalizing later with
  | nil => rfl
  | cons step earlier ih =>
    rw [List.reverse_cons, List.append_assoc, List.singleton_append, ih, ih, List.append_assoc]
    rfl

/-- The answer to a step that stands between others. -/
theorem run_at (past later : List Step) (step : Step) :
    (empty.run (past.reverse ++ step :: later))[past.length]? =
      some ((after past).step step).2 := by
  rw [run_reverse_append, List.getElem?_append_right (by simp [length_run])]
  simp [length_run, run]

theorem Closed.of_filter {names : String → Bool} {steps steps' : List Step}
    (closed : Closed names steps)
    (same : steps.filter (fun step => names step.name) =
      steps'.filter fun step => names step.name) : Closed names steps' := by
  intro step member inside
  have kept : step ∈ steps.filter fun step => names step.name := by
    rw [same]
    exact List.mem_filter.mpr ⟨member, inside⟩
  exact closed step (List.mem_filter.mp kept).1 inside

theorem answersFor_congr {names : String → Bool} (session : Session) {steps steps' : List Step}
    (closed : Closed names steps)
    (same : steps.filter (fun step => names step.name) =
      steps'.filter fun step => names step.name) :
    answersFor names session steps = answersFor names session steps' := by
  have agree : AgreeOn names session session := fun _ _ => rfl
  rw [agree.answersFor closed, agree.answersFor (closed.of_filter same), same]

/-- **Renderers of a session do not disturb each other, and their registries add up.** An answer
goes back to its lineage alone, and can be told from it: two runs that share it answer alike, and a
lineage stands among the steps of the run and makes the same renderer by itself. From any session
on, steps on other names can be put in, left out and reordered, as long as no copy draws from them.
A registry holds what its lineage has registered. Where all of that was registered by name, no name
is in it twice. -/
theorem settled_by_lineage :
    (∀ past later past' later' step, origins past step = origins past' step →
      ∃ answer, step.Tells past answer ∧
        (empty.run (past.reverse ++ step :: later))[past.length]? = some answer ∧
        (empty.run (past'.reverse ++ step :: later'))[past'.length]? = some answer) ∧
    (∀ past name,
      (lineage past name).Sublist past ∧
      (after (lineage past name)).get? name = (after past).get? name) ∧
    (∀ (names : String → Bool) session steps steps', Closed names steps →
      (steps.filter fun step => names step.name) =
        (steps'.filter fun step => names step.name) →
      answersFor names session steps = answersFor names session steps') ∧
    ∀ past name renderer, (after past).get? name = some renderer →
      renderer.registry.Holds (registrations (lineage past name)) ∧
      ∀ own, registrations (lineage past name) = Registry.named own →
        renderer.registry.HoldsNames own := by
  refine ⟨fun past later past' later' step same => ?_, fun past name => ?_,
    fun names session steps steps' closed same => ?_, fun past name renderer kept => ?_⟩
  · exact ⟨_, tells_answer past step, run_at past later step,
      answer_of_origins same ▸ run_at past' later' step⟩
  · rw [get?_after, get?_after, lineage_lineage]
    exact ⟨lineage_sublist past name, rfl⟩
  · exact answersFor_congr session closed same
  · rw [get?_after, renderer?_eq] at kept
    obtain ⟨dialect, -, rfl⟩ := Option.map_eq_some_iff.mp kept
    refine ⟨Registry.holds_extended _, fun own same => ?_⟩
    rw [same]
    exact (Registry.holds_extended _).names

/-- A copy keeps the registration before it. Those made later on its source do not reach it, nor
those on a renderer made anew. A tag that no kind has counts, and so does the name of a kind where
it is given to another tag: the first is asked for and answered, the second makes two names
alike. -/
theorem settled_by_lineage_of_copy :
    let silent : Handler := fun _ _ => .ok none
    let serve (name : String) (tag : Tag) : Step := ⟨name, .register tag silent⟩
    let source : List Step := [serve "source" (.ofName "money"), ⟨"source", .create .v4⟩]
    let past : List Step :=
      [serve "copy" (.ofName "string"), ⟨"copy", .copy "source"⟩] ++ source
    let crowded : List Step :=
      [serve "copy" (.ofName "string"), serve "source" (.ofName "file"), ⟨"other", .create .v3⟩,
        ⟨"copy", .copy "source"⟩] ++ source
    let question : Step := ⟨"copy", .ask (.serves (.ofName "file"))⟩
    (∃ answer, question.Tells past answer ∧
      (empty.run (past.reverse ++ [question]))[4]? = some answer ∧
      (empty.run (crowded.reverse ++ [question]))[6]? = some answer) ∧
    answersFor (· == "copy") (after past) [serve "source" (.ofName "tag"), question] =
      answersFor (· == "copy") (after past) [question] ∧
    (∃ renderer, (after crowded).get? "copy" = some renderer ∧ renderer.registry.size = 40 ∧
      renderer.registry.HoldsNames [("string", silent), ("money", silent)]) ∧
    ∃ renderer, (after (serve "copy" (.other "string") :: crowded)).get? "copy" = some renderer ∧
      renderer.registry.size = 41 ∧
      ∃ names, Registry.Lists (registrations (lineage (serve "copy" (.other "string") :: crowded)
        "copy")) names ∧ ¬names.Nodup := by
  intro silent serve source past crowded question
  obtain ⟨alike, -, apart, held⟩ := settled_by_lineage
  refine ⟨alike past [] crowded [] question rfl, apart _ _ _ _ ?_ rfl, ?_, ?_⟩
  · intro step member inside source copies
    rcases List.mem_cons.mp member with rfl | later
    · cases copies
    · cases List.mem_singleton.mp later
      cases copies
  · obtain ⟨holds, names⟩ := held crowded "copy" _ rfl
    exact ⟨_, rfl, holds.size, names _ rfl⟩
  · obtain ⟨holds, -⟩ := held (serve "copy" (.other "string") :: crowded) "copy" _ rfl
    obtain ⟨names, lists, -⟩ := holds.listed
    refine ⟨_, rfl, holds.size, names, lists, fun distinct => ?_⟩
    have named := lists.nodup_iff.mp distinct (.other "string", silent) List.mem_cons_self
    exact absurd named (by decide)

end SchemaSource.Session
