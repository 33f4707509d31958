import Mathlib.Data.Nat.Init
import Mathlib.Data.List.Forall2
import SchemaSource.Proofs.CallReader
import SchemaSource.Proofs.SchemaText
/-!
What is written can be read back. The chain of a schema is read as that schema, and texts have one
chain each, so schemas with the same text are the same.
-/
namespace SchemaSource

open Rule

/-! ## Words -/

theorem Spelling.integer?_word (o : Optimizations) (n : Int) :
    (choose o Numeral.ofNumber n).word.integer? = some n := by
  have named : ∀ numeral ∈ Numeral.ofNumber,
      (Numeral.ofNumber.find? (·.text "" == numeral.text "")).map Numeral.value =
        some numeral.value := by decide
  have value := value_choose o Numeral.ofNumber n
  unfold choose at value ⊢
  split
  · cases found : Numeral.find? Numeral.ofNumber n with
    | none => rfl
    | some numeral =>
      have inside : numeral ∈ Numeral.ofNumber := List.mem_of_find?_eq_some found
      have known : numeral.text "" ∈ valueNames :=
        List.mem_append_left _ (List.mem_map_of_mem inside)
      have same : numeral.value = n := by simpa using List.find?_some found
      simp only [word, dif_pos known, Word.integer?]
      exact (named numeral inside).trans (congrArg some same)
  · rfl

theorem integer?_boundWord (o : Optimizations) {n : Int} (safe : IsSafe n) :
    (boundWord o (.ofInt n)).integer? = some n := by
  rw [boundWord, Double.whole_ofInt safe, Spelling.integer?_word]

theorem Primitive.IsPlain.primitive?_word {value : Primitive} (plain : value.IsPlain) :
    value.word.primitive? = some value := by
  cases plain with
  | null => rfl
  | bool value => cases value <;> rfl
  | integer n safe => rw [word, Word.primitive?, Double.whole_ofInt safe]
  | string value => rfl

/-! ## One call after another -/

namespace Term

theorem readCalls?_append {sofar : Option Schema} {calls : List Call} {s : Schema}
    (read : readCalls? sofar calls = some s) (others : List Call) :
    readCalls? sofar (calls ++ others) = readCalls? (some s) others := by
  induction calls generalizing sofar with
  | nil => exact congrArg (readCalls? · others) read
  | cons call rest ih =>
    obtain ⟨name, arguments⟩ := call
    rw [readCalls?] at read
    rw [List.cons_append, readCalls?]
    obtain ⟨given, readGiven, read⟩ := Option.bind_eq_some_iff.mp read
    obtain ⟨next, stepped, read⟩ := Option.bind_eq_some_iff.mp read
    rw [readGiven, Option.bind_eq_bind, Option.bind_some, stepped, Option.bind_eq_bind,
      Option.bind_some]
    exact ih read

theorem readCalls?_cons {sofar : Option Schema} {name : MethodName} {arguments : List Term}
    {given : List Argument} {s : Schema} (read : readAll? arguments = some given)
    (step : Schema.step? sofar name.text given = some s) (rest : List Call) :
    readCalls? sofar (.mk name arguments :: rest) = readCalls? (some s) rest := by
  rw [readCalls?, read]
  exact (congrArg (· >>= fun s => readCalls? (some s) rest) step)

theorem readAll?_word (w : Word) : readAll? [.word w] = some [.word w] := rfl

theorem readAll?_cons_chain {calls : List Call} {s : Schema}
    (read : readCalls? none calls = some s) {rest : List Term} {given : List Argument}
    (readRest : readAll? rest = some given) :
    readAll? (.chain calls :: rest) = some (.schema s :: given) := by
  rw [readAll?, read?, read, readRest]
  rfl

theorem readAll?_chain {calls : List Call} {s : Schema} (read : readCalls? none calls = some s) :
    readAll? [.chain calls] = some [.schema s] :=
  readAll?_cons_chain read rfl

theorem readAll?_list {items : List Term} {given : List Argument}
    (read : readAll? items = some given) : readAll? [.list items] = some [.list given] := by
  rw [readAll?, read?, read]
  rfl

theorem readAll?_block {entries : List (String × List Call)} {shape : List (String × Schema)}
    (read : readEntries? entries = some shape) :
    readAll? [.block entries] = some [.block shape] := by
  rw [readAll?, read?, read]
  rfl

theorem readAll?_chains {o : Optimizations} {items : List Schema}
    (each : ∀ item ∈ items, readCalls? none (item.calls o) = some item) :
    readAll? (Schema.chains o items) = some (items.map .schema) := by
  induction items with
  | nil => rfl
  | cons item rest ih =>
    obtain ⟨here, later⟩ := List.forall_mem_cons.mp each
    exact readAll?_cons_chain here (ih later)

theorem readAll?_quotes (members : List String) :
    readAll? (members.map fun member => .word (.quoted member)) =
      some (members.map fun member => .word (.quoted member)) := by
  induction members with
  | nil => rfl
  | cons member rest ih =>
    rw [List.map_cons, readAll?, ih]
    rfl

theorem readEntries?_shapeCalls {o : Optimizations} {shape : List (String × Schema)}
    (each : ∀ s ∈ shape.map (·.2), readCalls? none (s.calls o) = some s) :
    readEntries? (Schema.shapeCalls o shape) = some shape := by
  induction shape with
  | nil => rfl
  | cons property rest ih =>
    obtain ⟨name, s⟩ := property
    obtain ⟨here, later⟩ := List.forall_mem_cons.mp each
    rw [Schema.shapeCalls, readEntries?, here, ih later]
    rfl

end Term

/-- What is read back from each argument is read back from all of them. -/
theorem Argument.mapM_map {α : Type} (read : Argument → Option α) (argument : α → Argument)
    (back : ∀ a, read (argument a) = some a) (items : List α) :
    (items.map argument).mapM read = some items := by
  have each : read ∘ argument = fun a => pure (id a) := funext back
  rw [List.mapM_map, each, List.mapM_pure, List.map_id]
  rfl

theorem Argument.mapM_schema? (items : List Schema) :
    (items.map Argument.schema).mapM Argument.schema? = some items :=
  mapM_map schema? schema (fun _ => rfl) items

/-! ## Constraints -/

/-- The call adds the constraint to a schema that can have it, and wraps no schema. -/
def Call.Adds {α : Type} (ofCall? : String → List Argument → Option α) (constraint : α) :
    Call → Prop
  | .mk name arguments =>
    ∃ given, Term.readAll? arguments = some given ∧ ofCall? name.text given = some constraint ∧
      ∀ s : Schema, s.wrap? name.text given = none

/-- Constraints are read in the order in which their calls stand. -/
theorem readCalls?_of_adds {α : Type} {ofCall? : String → List Argument → Option α}
    (make : List α → Schema)
    (grows : ∀ constraints name given, (make constraints).extend? name given =
      (ofCall? name given).map fun constraint => make (constraints ++ [constraint]))
    {constraints : List α} {calls : List Call}
    (adds : List.Forall₂ (Call.Adds ofCall?) constraints calls) (sofar : List α) :
    Term.readCalls? (some (make sofar)) calls = some (make (sofar ++ constraints)) := by
  induction adds generalizing sofar with
  | nil => rw [Term.readCalls?, List.append_nil]
  | @cons constraint call constraints calls here later ih =>
    obtain ⟨name, arguments⟩ := call
    obtain ⟨given, read, found, wrapsNone⟩ := here
    have step : Schema.step? (some (make sofar)) name.text given =
        some (make (sofar ++ [constraint])) := by
      rw [Schema.step?, wrapsNone, grows, found]
      rfl
    rw [Term.readCalls?_cons read step, ih, List.append_assoc]
    rfl

theorem Call.adds_word {α : Type} {ofCall? : String → List Argument → Option α} {constraint : α}
    {name : MethodName} {w : Word} (found : ofCall? name.text [.word w] = some constraint)
    (other : name.text ≠ "default") : (Call.mk name [.word w]).Adds ofCall? constraint := by
  refine ⟨[.word w], Term.readAll?_word w, found, ?_⟩
  intro s
  exact if_neg other

theorem Call.adds_bare {α : Type} {ofCall? : String → List Argument → Option α} {constraint : α}
    {name : MethodName} (found : ofCall? name.text [] = some constraint)
    (other : Modifier.ofMethod? name.text = none) :
    (Call.mk name []).Adds ofCall? constraint := by
  refine ⟨[], rfl, found, ?_⟩
  intro s
  rw [Schema.wrap?, other]
  rfl

theorem SizeBound.IsPlain.ofCall? {bound : SizeBound} (plain : bound.IsPlain) {exact : MethodName}
    (fresh : exact.text ≠ "min" ∧ exact.text ≠ "max") :
    SizeBound.ofCall? exact (bound.extent.method exact).text [.word (.digits bound.size.whole)] =
      some bound := by
  obtain ⟨extent, n, safe⟩ := plain
  rw [SizeBound.ofCall?, Double.whole_ofInt safe]
  cases extent with
  | least => rfl
  | greatest => rfl
  | exact => simp [Extent.ofMethod?, Extent.method, fresh]

theorem Extent.method_ne_default (extent : Extent) {exact : MethodName}
    (other : exact.text ≠ "default") : (extent.method exact).text ≠ "default" := by
  cases extent with
  | least => exact (by decide : "min" ≠ "default")
  | greatest => exact (by decide : "max" ≠ "default")
  | exact => exact other

theorem forall₂_boundCalls {bounds : List SizeBound} (plain : ∀ bound ∈ bounds, bound.IsPlain)
    {exact : MethodName} (fresh : exact.text ≠ "min" ∧ exact.text ≠ "max")
    (other : exact.text ≠ "default") :
    List.Forall₂ (Call.Adds (SizeBound.ofCall? exact)) bounds
      (bounds.map (SizeBound.call exact)) := by
  rw [List.forall₂_map_right_iff, List.forall₂_same]
  intro bound inside
  exact Call.adds_word ((plain bound inside).ofCall? fresh) (bound.extent.method_ne_default other)

theorem StringCheck.IsPlain.adds {check : StringCheck} (plain : check.IsPlain) :
    ∃ call, check.call? = some call ∧ call.Adds StringCheck.ofCall? check := by
  cases plain with
  | size bound plain =>
    have read := plain.ofCall? (show lengthName.text ≠ "min" ∧ lengthName.text ≠ "max" by decide)
    have other := bound.extent.method_ne_default (show lengthName.text ≠ "default" by decide)
    exact ⟨_, rfl, Call.adds_word (congrArg (Option.map StringCheck.size) read) other⟩
  | format name known =>
    have noModifier : ∀ name ∈ bareStringChecks, Modifier.ofMethod? name = none := by decide
    exact ⟨_, rfl, Call.adds_bare (dif_pos known) (noModifier name known)⟩
  | affix kind operand =>
    refine ⟨_, rfl, Call.adds_word ?_ ?_⟩
    · cases kind <;> rfl
    · cases kind <;> decide

theorem forall₂_stringCalls {checks : List StringCheck}
    (plain : ∀ check ∈ checks, check.IsPlain) :
    List.Forall₂ (Call.Adds StringCheck.ofCall?) checks
      (checks.filterMap StringCheck.call?) := by
  induction checks with
  | nil => exact .nil
  | cons check rest ih =>
    obtain ⟨here, later⟩ := List.forall_mem_cons.mp plain
    obtain ⟨call, found, adds⟩ := here.adds
    rw [List.filterMap_cons, found]
    exact .cons adds (ih later)

/-- Whether a bound is written as a number, as a sign or as one of a pair, it is read as itself. -/
theorem NumberCheck.adds {check : NumberCheck} (plain : NumberCheck.IsPlain check)
    (o : Optimizations) (after : Bool) :
    (NumberCheck.call o after check).Adds NumberCheck.ofCall? check := by
  cases plain with
  | least n safe =>
    rw [NumberCheck.call, Double.whole_ofInt safe]
    split
    next zero =>
      have same : n = 0 := by simpa using (Bool.and_eq_true_iff.mp zero).2
      subst same
      exact Call.adds_bare rfl rfl
    next =>
      refine Call.adds_word ?_ (by decide)
      simp only [NumberCheck.ofCall?, integer?_boundWord o safe]
  | greatest n safe =>
    rw [NumberCheck.call, Double.whole_ofInt safe]
    split
    next pair =>
      have same : n = Numeral.greatestSafe := by simpa using (Bool.and_eq_true_iff.mp pair).2
      subst same
      exact Call.adds_bare rfl rfl
    next =>
      split
      next zero =>
        have same : n = 0 := by simpa using (Bool.and_eq_true_iff.mp zero).2
        subst same
        exact Call.adds_bare rfl rfl
      next =>
        refine Call.adds_word ?_ (by decide)
        simp only [NumberCheck.ofCall?, integer?_boundWord o safe]
  | multipleOf n safe =>
    refine Call.adds_word ?_ (by decide)
    simp only [NumberCheck.ofCall?, integer?_boundWord o safe]
  | int known => exact Call.adds_bare rfl rfl

theorem forall₂_numberCheckCalls {checks : List NumberCheck}
    (plain : ∀ check ∈ checks, NumberCheck.IsPlain check) (o : Optimizations) (after : Bool) :
    List.Forall₂ (Call.Adds NumberCheck.ofCall?) checks (numberCheckCalls o after checks) := by
  induction checks generalizing after with
  | nil => exact .nil
  | cons check rest ih =>
    obtain ⟨here, later⟩ := List.forall_mem_cons.mp plain
    exact .cons (NumberCheck.adds here o after) (ih later _)

/-! ## Schemas -/

namespace Schema

theorem readCalls?_wrapped {inner s : Schema} {name : MethodName} {arguments : List Term}
    {given : List Argument} {calls : List Call} (read : Term.readCalls? none calls = some inner)
    (readGiven : Term.readAll? arguments = some given)
    (wraps : inner.wrap? name.text given = some s) :
    Term.readCalls? none (calls ++ [.mk name arguments]) = some s := by
  have step : step? (some inner) name.text given = some s := by
    rw [step?, wraps]
    rfl
  rw [Term.readCalls?_append read, Term.readCalls?_cons readGiven step, Term.readCalls?]

theorem step?_tuple (items : List Schema) :
    step? none "tuple" [.list (items.map .schema)] = some (.tuple items) :=
  congrArg (Option.map Schema.tuple) (Argument.mapM_schema? items)

/-- **Chains are read back.** The chain of a schema whose nodes are all written in full is read as
that schema, whatever the options spell differently. -/
theorem readCalls?_calls {s : Schema} (within : s.Within IsPlain) (o : Optimizations) :
    Term.readCalls? none (s.calls o) = some s := by
  induction within with
  | intro s here below ih =>
    cases s with
    | bare kind => cases kind <;> rfl
    | boolean coerce => cases coerce <;> rfl
    | string coerce checks =>
      have read := readCalls?_of_adds (Schema.string coerce) (fun _ _ _ => rfl)
        (forall₂_stringCalls here) []
      cases coerce with
      | true => exact (Term.readCalls?_cons rfl rfl _).trans read
      | false => exact (Term.readCalls?_cons rfl rfl _).trans read
    | number coerce checks =>
      have read := readCalls?_of_adds (Schema.number coerce) (fun _ _ _ => rfl)
        (forall₂_numberCheckCalls here o false) []
      cases coerce with
      | true => exact (Term.readCalls?_cons rfl rfl _).trans read
      | false => exact (Term.readCalls?_cons rfl rfl _).trans read
    | bigint coerce checks => exact here.elim
    | date coerce checks => exact here.elim
    | literal value =>
      obtain ⟨primitive, plain, rfl⟩ := here
      have start : step? none "literal" [.word primitive.word] =
          some (.literal primitive.value) :=
        congrArg (Option.map fun p : Primitive => Schema.literal p.value) plain.primitive?_word
      rw [calls, Primitive.IsPlain.primitive?_value]
      exact Term.readCalls?_cons (Term.readAll?_word _) start []
    | enumeration members =>
      have start : step? none "enum" [.list (members.map fun m => .word (.quoted m))] =
          some (.enumeration members) :=
        congrArg (Option.map Schema.enumeration)
          (Argument.mapM_map Argument.quote? (.word <| .quoted ·) (fun _ => rfl) members)
      exact Term.readCalls?_cons (Term.readAll?_list (Term.readAll?_quotes members)) start []
    | modified modifier inner =>
      refine readCalls?_wrapped (ih inner List.mem_cons_self) rfl ?_
      cases modifier <;> rfl
    | default value inner =>
      refine readCalls?_wrapped (ih inner List.mem_cons_self) (Term.readAll?_word _) ?_
      exact congrArg (Option.map (Schema.default · inner)) (Primitive.IsPlain.primitive?_word here)
    | recovery getter inner => exact here.elim
    | array bounds element =>
      have other : lengthName.text ≠ "default" := by decide
      have read := readCalls?_of_adds (Schema.array · element) (fun _ _ _ => rfl)
        (forall₂_boundCalls here.2 (by decide) other) []
      have given := Term.readAll?_chain (ih element List.mem_cons_self)
      exact (Term.readCalls?_cons given rfl _).trans read
    | set bounds element =>
      have other : sizeName.text ≠ "default" := by decide
      have read := readCalls?_of_adds (Schema.set · element) (fun _ _ _ => rfl)
        (forall₂_boundCalls here.2 (by decide) other) []
      have given := Term.readAll?_chain (ih element List.mem_cons_self)
      exact (Term.readCalls?_cons given rfl _).trans read
    | object policy shape =>
      have given := Term.readAll?_block (Term.readEntries?_shapeCalls ih)
      refine (Term.readCalls?_cons given rfl _).trans ?_
      cases policy <;> rfl
    | openObject shape catchall =>
      have properties := Term.readEntries?_shapeCalls fun s inside =>
        ih s (List.mem_cons_of_mem _ inside)
      have unnamed := Term.readAll?_chain (ih catchall List.mem_cons_self)
      refine (Term.readCalls?_cons (Term.readAll?_block properties) rfl _).trans ?_
      exact Term.readCalls?_cons unnamed rfl []
    | record first second | map first second | intersection first second =>
      have last := Term.readAll?_chain (ih second (by simp [children]))
      have both := Term.readAll?_cons_chain (ih first List.mem_cons_self) last
      exact Term.readCalls?_cons both rfl []
    | tuple items =>
      have given := Term.readAll?_list (Term.readAll?_chains ih)
      exact Term.readCalls?_cons given (step?_tuple items) []
    | openTuple items rest =>
      have given := Term.readAll?_chains fun item inside => ih item (List.mem_cons_of_mem _ inside)
      have others := Term.readAll?_chain (ih rest List.mem_cons_self)
      refine (Term.readCalls?_cons (Term.readAll?_list given) (step?_tuple items) _).trans ?_
      exact Term.readCalls?_cons others rfl []
    | union options =>
      have start : step? none "union" [.list (options.map .schema)] = some (.union options) :=
        congrArg (Option.map Schema.union) (Argument.mapM_schema? options)
      exact Term.readCalls?_cons (Term.readAll?_list (Term.readAll?_chains ih)) start []
    | discriminatedUnion discriminator options =>
      have start : step? none "discriminatedUnion"
          [.word (.quoted discriminator), .list (options.map .schema)] =
            some (.discriminatedUnion discriminator options) :=
        congrArg (Option.map (Schema.discriminatedUnion discriminator))
          (Argument.mapM_schema? options)
      have given : Term.readAll? [.word (.quoted discriminator), .list (chains o options)] =
          some [.word (.quoted discriminator), .list (options.map .schema)] := by
        have items : Term.readAll? (chains o options) = some (options.map .schema) :=
          Term.readAll?_chains ih
        rw [Term.readAll?, Term.readAll?_list items]
        rfl
      exact Term.readCalls?_cons given start []
    | promise inner =>
      exact Term.readCalls?_cons (Term.readAll?_chain (ih inner List.mem_cons_self)) rfl []
    | lazy getter => exact here.elim
    | transform callback inner => exact here.elim
    | pipe input output =>
      have given := Term.readAll?_chain (ih output (by simp [children]))
      exact readCalls?_wrapped (ih input List.mem_cons_self) given rfl

/-- **Rendering loses nothing.** A schema whose nodes are all written in full has a text, and no
other such schema has that text. -/
theorem render_injective {options : Options} (apart : options.SetsApart) {s : Schema}
    (within : s.Within IsPlain) :
    ∃ text, (Renderer.ofVersion .v4).render options (s.encode (.all .v4)) = .ok text ∧
      ∀ t : Schema, t.Within IsPlain →
        (Renderer.ofVersion .v4).render options (t.encode (.all .v4)) = .ok text → t = s := by
  refine ⟨_, textAt_eq_chainText within options options.indentLevel, ?_⟩
  intro t otherWithin same
  have texts := (textAt_eq_chainText otherWithin options options.indentLevel).symm.trans same
  have letters := congrArg String.toList (Except.ok.inj texts)
  simp only [chainText, String.toList_ofList] at letters
  have links := congrArg (· ++ ([] : List Char)) (List.cons.inj letters).2
  have chains := (Term.links_append_inj apart.tells _ _ _ endsChain_nil endsChain_nil links).1
  have read := readCalls?_calls otherWithin options.optimizations
  rw [chains, readCalls?_calls within] at read
  exact (Option.some.inj read).symm

end Schema

/-- One property whose name has a comma in it is not two properties. -/
theorem render_comma_injective :
    let count : Schema := .number false [.least true (.ofInt 0), .greatest true (.ofInt 255)]
    let one : Schema := .object .strict [("a: z.any(), b", .modified .optional count)]
    let two : Schema := .object .strict [("a", .bare .any), ("b", .modified .optional count)]
    one.Within Schema.IsPlain ∧ two.Within Schema.IsPlain ∧
      ∃ text, (Renderer.ofVersion .v4).render {} (one.encode (.all .v4)) = .ok text ∧
        (Renderer.ofVersion .v4).render {} (two.encode (.all .v4)) ≠ .ok text := by
  intro count one two
  have plain : count.Within Schema.IsPlain := by
    refine .leaf (List.forall_mem_cons.mpr ⟨.least 0 (by decide), ?_⟩) rfl
    exact List.forall_mem_singleton.mpr (.greatest 255 (by decide))
  have wrapped : (Schema.modified .optional count).Within Schema.IsPlain :=
    .intro _ trivial (List.forall_mem_singleton.mpr plain)
  have first : one.Within Schema.IsPlain :=
    .intro one trivial (List.forall_mem_singleton.mpr wrapped)
  have second : two.Within Schema.IsPlain := by
    refine .intro two trivial (List.forall_mem_cons.mpr ⟨.leaf trivial rfl, ?_⟩)
    exact List.forall_mem_singleton.mpr wrapped
  have apart : ({} : Options).SetsApart := fun _ => by decide
  obtain ⟨text, rendered, only⟩ := Schema.render_injective apart first
  refine ⟨first, second, text, rendered, ?_⟩
  intro same
  have shapes := only two second same
  simp [one, two] at shapes

end SchemaSource
