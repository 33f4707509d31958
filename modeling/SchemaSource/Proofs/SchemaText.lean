import Mathlib.Data.List.Nodup
import SchemaSource.Proofs.Agreement
import SchemaSource.Proofs.SchemaCalls
/-!
The text of a schema is the text of its chain of calls, at whatever level and in whatever layout it
is printed.
-/
namespace SchemaSource

open Rule

/-! ## The text of calls -/

/-- The text of a chain that stands at a level. -/
def chainText (options : Options) (level : Nat) (calls : List Call) : String :=
  .ofList ('z' :: Term.links options level calls)

namespace Term

variable {options : Options} {level : Nat}

theorem links_append (calls others : List Call) :
    links options level (calls ++ others) =
      links options level calls ++ links options level others := by
  induction calls with
  | nil => rfl
  | cons call rest ih =>
    obtain ⟨name, arguments⟩ := call
    simp only [List.cons_append, links, ih, List.append_assoc]

/-- Calls with their texts in a row. -/
theorem links_eq_join {α : Type} {call : α → Call} {text : α → String} (constraints : List α)
    (each : ∀ a ∈ constraints, links options level [call a] = (text a).toList) :
    links options level (constraints.map call) = (String.join (constraints.map text)).toList := by
  induction constraints with
  | nil => rfl
  | cons a rest ih =>
    have head := each a List.mem_cons_self
    have tail := ih fun b inside => each b (List.mem_cons_of_mem _ inside)
    rw [List.map_cons, List.map_cons, String.join_cons, String.toList_append, ← head, ← tail,
      ← links_append]
    rfl

end Term

theorem Spelling.text_word {o : Optimizations} {n : Int} :
    (choose o Numeral.ofNumber n).word.text = (choose o Numeral.ofNumber n).text "" := by
  have digits : (Spelling.digits n).word.text = (Spelling.digits n).text "" :=
    String.append_empty.symm
  unfold choose
  split
  · cases found : Numeral.find? Numeral.ofNumber n with
    | none => exact digits
    | some numeral =>
      have known : numeral.text "" ∈ valueNames :=
        List.mem_append_left _ (List.mem_map_of_mem (List.mem_of_find?_eq_some found))
      simp only [word, dif_pos known]
      rfl
  · exact digits

/-- The text of a method with one word for its argument. -/
theorem Term.links_word {options : Options} {level : Nat} (name : MethodName) (w : Word) :
    Term.links options level [.mk name [.word w]] = (callText name.text w.text).toList := by
  simp [Term.links, Term.commas, Term.more, Term.chars, callText]

theorem Term.links_bare {options : Options} {level : Nat} (name : MethodName) :
    Term.links options level [.mk name []] = (callText name.text "").toList := by
  simp [Term.links, Term.commas, callText]

theorem SizeBound.IsPlain.links_call {options : Options} {level : Nat} {bound : SizeBound}
    (plain : bound.IsPlain) {names : SizeNames} {exact : MethodName}
    (name : names.exact = exact.text) :
    Term.links options level [bound.call exact] = (bound.text names).toList := by
  obtain ⟨extent, n, safe⟩ := plain
  refine (Term.links_word _ _).trans ?_
  rw [SizeBound.text, Word.text, Double.whole_ofInt safe, Double.text_ofInt safe]
  cases extent with
  | least => rfl
  | greatest => rfl
  | exact => rw [SizeNames.method, name]; rfl

theorem StringCheck.links_call {options : Options} {level : Nat} {check : StringCheck}
    (plain : check.IsPlain) :
    ∃ call, check.call? = some call ∧
      Term.links options level [call] = check.text.toList := by
  cases plain with
  | size bound plain => exact ⟨_, rfl, plain.links_call rfl⟩
  | format name known => exact ⟨_, rfl, Term.links_bare _⟩
  | affix kind operand =>
    refine ⟨_, rfl, (Term.links_word _ _).trans ?_⟩
    cases kind <;> rfl

theorem boundWord_text (o : Optimizations) {n : Int} (safe : IsSafe n) :
    (boundWord o (.ofInt n)).text = numberBound o (some (.number (.ofInt n))) := by
  rw [boundWord, Double.whole_ofInt safe, Spelling.text_word]
  exact (o.numberText_eq (Double.integer?_ofInt safe) (Nat.le_of_lt safe)).symm

theorem NumberCheck.links_call {options : Options} {level : Nat} {check : NumberCheck}
    (plain : NumberCheck.IsPlain check) (o : Optimizations) (after : Bool) :
    ∃ call, numberCall? o.semanticMethods after (check.check .number) = some call ∧
      Term.links options level [NumberCheck.call o after check] =
        (call.text (numberBound o)).toList := by
  have bounded (name : MethodName) {n : Int} (safe : IsSafe n) :
      Term.links options level [.mk name [.word (boundWord o (.ofInt n))]] =
        (callText name.text (numberBound o (some (.number (.ofInt n))))).toList := by
    rw [← boundWord_text o safe]
    exact Term.links_word _ _
  cases plain with
  | least n safe =>
    let check : Check := { kind := "min", value := some (.number (.ofInt n)), inclusive := true }
    have zero : boundIs 0 check = (n == 0) := boundIs_eq rfl (Double.integer?_ofInt safe) 0
    have call : numberCall? o.semanticMethods after check =
        some (if o.semanticMethods && boundIs 0 check then .flag "nonnegative"
          else .min check.resolved) := rfl
    refine ⟨_, call, ?_⟩
    rw [zero, NumberCheck.call, Double.whole_ofInt safe]
    cases o.semanticMethods && n == 0 with
    | true => exact Term.links_bare _
    | false => exact bounded _ safe
  | greatest n safe =>
    let check : Check := { kind := "max", value := some (.number (.ofInt n)), inclusive := true }
    have is (m : Int) : boundIs m check = (n == m) := boundIs_eq rfl (Double.integer?_ofInt safe) m
    have greatest : isGreatestSafe check = (n == Numeral.greatestSafe) := is Numeral.greatestSafe
    have call : numberCall? o.semanticMethods after check =
        some (if o.semanticMethods && after && isGreatestSafe check then .flag "safe"
          else if o.semanticMethods && boundIs 0 check then .flag "nonpositive"
          else .max check.resolved) := rfl
    refine ⟨_, call, ?_⟩
    rw [greatest, is 0, NumberCheck.call, Double.whole_ofInt safe]
    cases o.semanticMethods && after && n == Numeral.greatestSafe with
    | true => exact Term.links_bare _
    | false =>
      cases o.semanticMethods && n == 0 with
      | true => exact Term.links_bare _
      | false => exact bounded _ safe
  | multipleOf n safe => exact ⟨_, rfl, bounded _ safe⟩
  | int known => exact ⟨_, rfl, Term.links_bare _⟩

theorem links_numberCheckCalls {options : Options} {level : Nat} {checks : List NumberCheck}
    (plain : ∀ check ∈ checks, NumberCheck.IsPlain check) (o : Optimizations) (after : Bool) :
    Term.links options level (numberCheckCalls o after checks) =
      (String.join ((numberCalls o.semanticMethods after
        (checks.map (RangeCheck.check .number))).map (·.text (numberBound o)))).toList := by
  induction checks generalizing after with
  | nil => rfl
  | cons check rest ih =>
    obtain ⟨here, later⟩ := List.forall_mem_cons.mp plain
    obtain ⟨call, found, text⟩ := NumberCheck.links_call here o after
    rw [numberCheckCalls, ← List.singleton_append, Term.links_append, text, ih later, List.map_cons,
      numberCalls, found]
    simp

theorem links_stringCalls {options : Options} {level : Nat} {checks : List StringCheck}
    (plain : ∀ check ∈ checks, check.IsPlain) :
    Term.links options level (checks.filterMap StringCheck.call?) =
      (String.join (checks.map StringCheck.text)).toList := by
  induction checks with
  | nil => rfl
  | cons check rest ih =>
    obtain ⟨here, later⟩ := List.forall_mem_cons.mp plain
    obtain ⟨call, found, text⟩ := StringCheck.links_call here
    rw [List.filterMap_cons, found, List.map_cons, String.join_cons, String.toList_append,
      ← ih later, ← text, ← Term.links_append]
    rfl

/-! ## Bounds of sizes, each once -/

theorem eraseDups_of_nodup {texts : List String} (distinct : texts.Nodup) :
    texts.eraseDups = texts := by
  induction texts with
  | nil => rfl
  | cons text rest ih =>
    obtain ⟨fresh, distinct⟩ := List.nodup_cons.mp distinct
    have others : rest.filter (fun other => !other == text) = rest := by
      apply List.filter_eq_self.mpr
      intro other inside
      have different : other ≠ text := fun same => fresh (same ▸ inside)
      simp [different]
    rw [List.eraseDups_cons, others, ih distinct]

/-- Bounds of sizes with the same text are the same bound. -/
theorem SizeBound.IsPlain.text_inj {bound other : SizeBound} (plain : bound.IsPlain)
    (otherPlain : other.IsPlain) {names : SizeNames} {exact : MethodName}
    (name : names.exact = exact.text) (fresh : exact.text ≠ "min" ∧ exact.text ≠ "max")
    (same : bound.text names = other.text names) : bound = other := by
  have apart : ({} : Options).SetsApart := fun _ => by decide
  have links : Term.links {} 0 [bound.call exact] ++ [] =
      Term.links {} 0 [other.call exact] ++ [] := by
    rw [plain.links_call name, otherPlain.links_call name, same]
  have calls := (Term.links_append_inj apart.tells 0 _ _ endsChain_nil endsChain_nil links).1
  obtain ⟨extent, n, safe⟩ := plain
  obtain ⟨otherExtent, m, otherSafe⟩ := otherPlain
  simp only [SizeBound.call, List.cons.injEq, Call.mk.injEq, Term.word.injEq, Word.digits.injEq,
    Double.whole_ofInt safe, Double.whole_ofInt otherSafe, and_true] at calls
  obtain ⟨methods, rfl⟩ := calls
  rw [Extent.method_inj fresh methods]

theorem links_boundCalls (options : Options) (level : Nat) {bounds : List SizeBound}
    (distinct : bounds.Nodup) (plain : ∀ bound ∈ bounds, bound.IsPlain) {names : SizeNames}
    {exact : MethodName} (name : names.exact = exact.text)
    (fresh : exact.text ≠ "min" ∧ exact.text ≠ "max") :
    Term.links options level (bounds.map (SizeBound.call exact)) =
      (String.join (bounds.map (·.text names)).eraseDups).toList := by
  have texts : (bounds.map (·.text names)).Nodup := by
    apply List.Nodup.map_on _ distinct
    intro bound inside other otherInside same
    exact (plain bound inside).text_inj (plain other otherInside) name fresh same
  rw [eraseDups_of_nodup texts]
  exact Term.links_eq_join bounds fun bound inside => (plain bound inside).links_call name

/-! ## Blocks and lists -/

/-- The properties of a block after the first one, in their frame. -/
def Frame.after (frame : Frame) : List String → List Char
  | [] => frame.closing
  | property :: rest => frame.between ++ (property.toList ++ frame.after rest)

theorem after_laidOut {options : Options} (format : options.format = true) (level : Nat)
    (first : String) (rest : List String) :
    (",\n".intercalate ((first :: rest).map (Doc.indentation options (level + 1) ++ ·)) ++ ",\n"
        ++ Doc.indentation options level ++ "\x7d").toList =
      (Doc.indentation options (level + 1)).toList
        ++ (first.toList ++ (options.frame level).after rest) := by
  induction rest generalizing first with
  | nil => simp [Frame.after, Options.frame, format, String.intercalate_singleton]
  | cons second rest ih =>
    have later := ih second
    simp only [List.map_cons, String.intercalate_cons_cons, String.toList_append,
      List.append_assoc, Frame.after] at later ⊢
    rw [later]
    simp [Options.frame, format]

theorem after_flat {options : Options} (format : options.format = false) (level : Nat)
    (first : String) (rest : List String) :
    (", ".intercalate (first :: rest) ++ " \x7d").toList =
      first.toList ++ (options.frame level).after rest := by
  induction rest generalizing first with
  | nil => simp [Frame.after, Options.frame, format, String.intercalate_singleton]
  | cons second rest ih =>
    have later := ih second
    simp only [String.intercalate_cons_cons, String.toList_append, List.append_assoc,
      Frame.after] at later ⊢
    rw [later]
    simp [Options.frame, format]

theorem toList_braces (options : Options) (level : Nat) (first : String) (rest : List String) :
    (Doc.braces options level (first :: rest)).toList =
      (options.frame level).opening ++ (first.toList ++ (options.frame level).after rest) := by
  cases format : options.format with
  | true =>
    have lines := after_laidOut format level first rest
    have opening : (options.frame level).opening =
        "\x7b\n".toList ++ (Doc.indentation options (level + 1)).toList := by
      simp [Options.frame, format]
    rw [opening, List.append_assoc, ← lines, ← String.toList_append]
    simp only [Doc.braces, format, List.isEmpty_cons, Bool.false_eq_true, if_true, if_false,
      String.append_assoc]
  | false =>
    have line := after_flat format level first rest
    have opening : (options.frame level).opening = "\x7b ".toList := by
      simp [Options.frame, format]
    rw [opening, ← line, ← String.toList_append]
    simp only [Doc.braces, format, List.isEmpty_cons, Bool.false_eq_true, if_false,
      String.append_assoc]

/-! ## The text of a schema -/

namespace Schema

variable {options : Options} {level : Nat}

/-- The text of the chain of a child. -/
def childText (options : Options) (child : Child) (level : Nat) : String :=
  chainText options level (child.1.calls options.optimizations)

theorem toList_childText (child : Child) :
    (childText options child level).toList =
      'z' :: Term.links options level (child.1.calls options.optimizations) :=
  String.toList_ofList

theorem toList_written_list (items : List Schema) (first : Nat) :
    (Template.written options level (childText options)
        (Template.list (items.zipIdx first))).toList =
      Term.commas options level (chains options.optimizations items) := by
  induction items generalizing first with
  | nil => rfl
  | cons item rest ih =>
    cases rest with
    | nil =>
      simp [Template.list, Template.written, toList_childText, chains, Term.commas, Term.more,
        Term.chars]
    | cons next rest =>
      have later := ih (first + 1)
      simp only [List.zipIdx_cons, Template.list, Template.written, String.toList_append, chains,
        Term.commas] at later ⊢
      rw [later, toList_childText]
      rfl

theorem map_propertyChildren {α : Type} (f : String × Schema → α) (shape : List (String × Schema)) :
    (propertyChildren shape).map (fun entry => f (entry.1, entry.2.1)) = shape.map f := by
  conv_rhs => rw [← List.zipIdx_map_fst 1 shape]
  rw [propertyChildren, List.map_map, List.map_map]
  rfl

/-- A property with its schema, one level deeper. -/
def propertyText (options : Options) (level : Nat) (property : String × Schema) : String :=
  propertyName property.1 ++ ": "
    ++ chainText options (level + 1) (property.2.calls options.optimizations)

theorem after_propertyText (shape : List (String × Schema)) :
    (options.frame level).after (shape.map (propertyText options level)) =
      Term.properties options level (shapeCalls options.optimizations shape) := by
  induction shape with
  | nil => rfl
  | cons property rest ih =>
    obtain ⟨name, s⟩ := property
    rw [List.map_cons, Frame.after, ih, shapeCalls, Term.properties]
    simp [propertyText, chainText]

theorem toList_block (shape : List (String × Schema)) :
    (Doc.braces options level ((propertyChildren shape).map fun entry =>
        propertyName entry.1 ++ ": " ++ childText options entry.2 (level + 1))).toList =
      Term.braces options level (shapeCalls options.optimizations shape) := by
  have entries := map_propertyChildren (propertyText options level) shape
  refine (congrArg (fun texts => (Doc.braces options level texts).toList) entries).trans ?_
  cases shape with
  | nil => simp [Doc.braces, shapeCalls, Term.braces]
  | cons property rest =>
    obtain ⟨name, s⟩ := property
    rw [List.map_cons, toList_braces, after_propertyText, shapeCalls, Term.braces]
    simp [propertyText, chainText]

theorem toList_quotes (options : Options) (level : Nat) (members : List String) :
    (", ".intercalate (members.map Text.quote)).toList =
      Term.commas options level (members.map fun member => .word (.quoted member)) := by
  induction members with
  | nil => rfl
  | cons member rest ih =>
    cases rest with
    | nil => simp [String.intercalate_singleton, Term.commas, Term.more, Term.chars, Word.text]
    | cons next rest =>
      simp only [List.map_cons, String.intercalate_cons_cons, String.toList_append,
        Term.commas] at ih ⊢
      rw [ih]
      simp [Term.more, Term.chars, Word.text]

theorem toList_constructorText (options : Options) (level : Nat) (coerce : Bool) (name : String)
    (plain converting : MethodName)
    (names : plain.text = name ∧ converting.text = "coerce." ++ name) :
    (constructorText coerce name).toList =
      'z' :: Term.links options level [.mk (if coerce then converting else plain) []] := by
  rw [Term.links_bare, constructorText]
  cases coerce with
  | true => simp [callText, names.2]
  | false => simp [callText, names.1]

end Schema

/-! ## Values -/

theorem Json.ofDouble_ofInt {n : Int} (safe : IsSafe n) : Json.ofDouble (.ofInt n) = .int n := by
  have integer := Double.integer?_ofInt safe
  have finite := Double.isFinite_of_integer? integer
  simp only [ofDouble, finite, integer]
  exact if_pos safe

namespace Primitive.IsPlain

variable {value : Primitive}

theorem jsonText? (plain : value.IsPlain) : value.value.jsonText? = some value.word.text := by
  cases plain with
  | null => rfl
  | bool value => cases value <;> rfl
  | integer n safe =>
    rw [Value.jsonText?, Primitive.value, Value.toJson?, Json.ofDouble_ofInt safe, word, Word.text,
      Double.whole_ofInt safe]
    rfl
  | string value => rfl

theorem text_eq (plain : value.IsPlain) : value.text = value.word.text := by
  have json := plain.jsonText?
  have argument : value.text = (value.value.jsonText?).getD "/* non-serializable value */" := by
    cases value <;> rfl
  rw [argument, json]
  rfl

theorem literalText_eq (plain : value.IsPlain) : literalText value.value = value.word.text := by
  cases plain with
  | null => rfl
  | bool value => cases value <;> rfl
  | integer n safe =>
    rw [Primitive.value, literalText, Double.text_ofInt safe, word, Word.text,
      Double.whole_ofInt safe]
  | string value => rfl

theorem primitive?_value (value : Primitive) : value.value.primitive? = some value := by
  cases value <;> rfl

end Primitive.IsPlain

theorem Rule.KeyPolicy.links_calls {options : Options} {level : Nat} (policy : Rule.KeyPolicy) :
    Term.links options level policy.calls = policy.text.toList := by
  cases policy with
  | strip => rfl
  | passthrough => exact Term.links_bare _
  | strict => exact Term.links_bare _

/-! ## Templates -/

namespace Schema

theorem IsPlain.hasLayout {s : Schema} (plain : s.IsPlain) : s.HasLayout .v4 := by
  cases s with
  | array bounds element | set bounds element => exact nofun
  | openObject shape catchall => exact plain
  | discriminatedUnion discriminator options => exact plain
  | _ => exact trivial

attribute [local simp] Term.links Term.commas Term.more Term.chars

/-- The template of a schema, with their chains for its children, is its own chain. -/
theorem IsPlain.written_eq {s : Schema} (plain : s.IsPlain) (options : Options) (level : Nat) :
    ∃ template, s.template options.optimizations = .ok template ∧
      (template.written options level (childText options)).toList =
        'z' :: Term.links options level (s.calls options.optimizations) := by
  have alone (text : String) :
      (Template.written options level (childText options) (.text text)).toList = text.toList := by
    simp [Template.text, Template.written]
  cases s with
  | bare kind =>
    have name : kind.methodName.text = kind.tag := by cases kind <;> rfl
    refine ⟨_, rfl, (alone _).trans ?_⟩
    rw [calls, Term.links_bare, name]
    simp [callText]
  | boolean coerce =>
    have start := toList_constructorText options level coerce "boolean" (.named "boolean")
      (.named "coerce.boolean") ⟨rfl, rfl⟩
    exact ⟨_, rfl, (alone _).trans start⟩
  | string coerce checks =>
    refine ⟨_, rfl, (alone _).trans ?_⟩
    have start := toList_constructorText options level coerce "string"
      (.named "string") (.named "coerce.string") ⟨rfl, rfl⟩
    rw [String.toList_append, start, ← links_stringCalls plain, List.cons_append,
      ← Term.links_append]
    rfl
  | number coerce checks =>
    refine ⟨_, rfl, (alone _).trans ?_⟩
    have start := toList_constructorText options level coerce "number"
      (.named "number") (.named "coerce.number") ⟨rfl, rfl⟩
    rw [String.toList_append, start, ← links_numberCheckCalls plain, List.cons_append,
      ← Term.links_append]
    rfl
  | bigint coerce checks => exact plain.elim
  | date coerce checks => exact plain.elim
  | literal value =>
    obtain ⟨primitive, plain, rfl⟩ := plain
    refine ⟨_, rfl, (alone _).trans ?_⟩
    rw [plain.literalText_eq, calls, Primitive.IsPlain.primitive?_value]
    simp
  | enumeration members =>
    refine ⟨_, rfl, (alone _).trans ?_⟩
    rw [String.toList_append, String.toList_append, toList_quotes options level]
    simp [calls]
  | modified modifier inner =>
    have name : modifier.methodName.text = modifier.tag := by cases modifier <;> rfl
    refine ⟨_, rfl, ?_⟩
    rw [calls, Term.links_append, Term.links_bare, name]
    simp [Template.written, toList_childText, callText]
  | default value inner =>
    refine ⟨_, rfl, ?_⟩
    rw [calls, Term.links_append, Term.links_word, Primitive.IsPlain.text_eq plain]
    simp [Template.written, toList_childText, callText]
  | recovery getter inner => exact plain.elim
  | array bounds element =>
    refine ⟨_, rfl, ?_⟩
    have name : lengthNames.exact = lengthName.text := rfl
    have bounded := links_boundCalls options level plain.1 plain.2 name (by decide)
    simp [Template.written, toList_childText, calls, bounded]
  | set bounds element =>
    refine ⟨_, rfl, ?_⟩
    have name : setSizeNames.exact = sizeName.text := rfl
    have bounded := links_boundCalls options level plain.1 plain.2 name (by decide)
    simp [Template.written, toList_childText, calls, bounded]
  | object policy shape =>
    refine ⟨_, rfl, ?_⟩
    simp [Template.written, toList_block, calls, policy.links_calls]
  | openObject shape catchall =>
    refine ⟨_, rfl, ?_⟩
    simp [Template.written, toList_block, toList_childText, calls]
  | record first second | map first second | intersection first second | promise inner =>
    refine ⟨_, rfl, ?_⟩
    simp [Template.written, toList_childText, calls]
  | tuple items =>
    refine ⟨_, rfl, ?_⟩
    simp [Template.written, Template.written_append, toList_written_list, calls]
  | openTuple items rest =>
    refine ⟨_, rfl, ?_⟩
    simp [Template.written, Template.written_append, toList_written_list, toList_childText, calls]
  | union members =>
    refine ⟨_, rfl, ?_⟩
    simp [unionOf, Template.written, Template.written_append, toList_written_list, calls]
  | discriminatedUnion discriminator members =>
    refine ⟨_, rfl, ?_⟩
    have name : (Value.string discriminator).jsonText? = some (Text.quote discriminator) := rfl
    simp [discriminatedOf, name, Template.written, Template.written_append, toList_written_list,
      calls, Word.text]
  | lazy getter => exact plain.elim
  | transform callback inner => exact plain.elim
  | pipe input output =>
    refine ⟨_, rfl, ?_⟩
    rw [calls, Term.links_append]
    simp [Template.written, toList_childText]

/-- **Schemas are written as their chains.** The text of a schema whose nodes are all written in
full is that of its chain of calls. -/
theorem textAt_eq_chainText {s : Schema} (within : s.Within IsPlain) (options : Options)
    (level : Nat) :
    Renderer.textAt .v4 options level (s.encode (.all .v4)) =
      .ok (chainText options level (s.calls options.optimizations)) := by
  induction within generalizing level with
  | intro s here below ih =>
    obtain ⟨template, found, written⟩ := here.written_eq options level
    have reads : ∀ path, Dialect.v4.Reads (Layouts.all .v4 path) := fun _ => .kinds
    rw [textAt_encode reads here.hasLayout, found]
    have each : ∀ child ∈ template.holes, ∀ l,
        Renderer.textAt .v4 options l (Child.encode (.all .v4) child) =
          .ok (childText options child l) :=
      fun child inside l => ih child.1 (holes_subset found child inside) l
    refine (Template.print_eq_written each).trans (congrArg Except.ok ?_)
    rw [← String.toList_inj, written]
    exact String.toList_ofList.symm

end Schema

end SchemaSource
