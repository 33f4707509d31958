import Mathlib.Data.List.Forall2
import Mathlib.Data.List.Induction
import SchemaSource.Proofs.Agreement
import SchemaSource.Proofs.Faults
import SchemaSource.Proofs.Normalization
import SchemaSource.Proofs.NumeralText
import SchemaSource.Proofs.QuotedText
/-!
Bounds of sizes. A definition may hold counts of its own and list checks as well. Both are written in
one chain, in which each call stands once, where it is first stated. The chain lets pass the sizes
that all of the bounds allow.
-/
namespace SchemaSource

open Rule

/-! ## Bounds -/

/-- A bound of a size by a natural number. -/
structure CountBound where
  extent : Extent
  count : Nat
  deriving DecidableEq

/-- Bounds of sizes are allowed themselves. -/
def CountBound.Admits (size : Nat) : CountBound → Prop
  | ⟨.least, count⟩ => count ≤ size
  | ⟨.greatest, count⟩ => size ≤ count
  | ⟨.exact, count⟩ => size = count

/-- The two kinds of schema that bound a size. -/
inductive SizedKind where
  | array
  | set

namespace SizedKind

def kind : SizedKind → Kind
  | .array => .array
  | .set => .set

def opening : SizedKind → String
  | .array => "z.array("
  | .set => "z.set("

def names : SizedKind → SizeNames
  | .array => lengthNames
  | .set => setSizeNames

/-- The bounds that a definition may hold by itself, in the order in which they are written. -/
def extents : SizedKind → List Extent
  | .array => [.least, .greatest, .exact]
  | .set => [.least, .greatest]

/-- The field of a definition for such a bound. -/
def key : SizedKind → Extent → String
  | .array => lengthKey
  | .set => sizeKey

/-- What a definition holds as the schema of elements. -/
def element? (kind : SizedKind) (definition : Fields) : Option Value :=
  match kind with
  | .array =>
    (definition.get? "element").filter Value.countsAsTrue
      <|> (definition.get? "type").filter Value.isObject
  | .set =>
    (definition.get? "valueType").filter Value.countsAsTrue
      <|> (definition.get? "element").filter Value.countsAsTrue

/-- The call that sets a bound. -/
def text (kind : SizedKind) (bound : CountBound) : String :=
  callText (kind.names.method bound.extent) (toString bound.count)

/-- The sizes that a call lets pass, as it reads. -/
def Passes (kind : SizedKind) (call : String) (size : Nat) : Prop :=
  ∃ (bound : CountBound) (argument : String),
    call = callText (kind.names.method bound.extent) argument ∧
      Numeral.evaluate? "" argument = some (bound.count : Int) ∧ bound.Admits size

end SizedKind

/-! ## Sources of bounds -/

/-- A number that is a count. Counts stay below the integers that doubles skip. -/
inductive Value.Counts (count : Nat) : Value → Prop
  | number {x : Double} (integer : x.integer? = some (count : Int)) (small : count < 2 ^ 53) :
      Counts count (.number x)

theorem Value.counts_ofInt {count : Nat} (small : count < 2 ^ 53) :
    (Value.number (.ofInt count)).Counts count :=
  .number (Double.integer?_ofInt (by simpa using small)) small

/-- What a definition holds in a field for a bound: nothing, a count, or an object with one. -/
inductive CountField : Option Value → Option Nat → Prop
  | missing : CountField none none
  | nothing {value : Value} (nothing : value.isNothing = true) : CountField (some value) none
  | bare {value : Value} {count : Nat} (counts : value.Counts count) :
      CountField (some value) (some count)
  | wrapped {fields : Fields} {value : Value} {count : Nat}
      (field : fields.get? "value" = some value) (counts : value.Counts count) :
      CountField (some (.object fields)) (some count)

/-- An entry of a list of checks with the bound that it states. Flat entries name their kind, others
a check; a bound of a size is allowed itself whatever its flag says. Checks of other kinds state
nothing here, and neither does an entry that names no check at all. -/
inductive SizedKind.Lists (kind : SizedKind) : Value → Option CountBound → Prop
  | flat {fields : Fields} {extent : Extent} {value : Value} {count : Nat}
      (named : fields.string? "kind" = some (kind.names.method extent))
      (held : fields.held? "value" = some value) (counts : value.Counts count) :
      Lists kind (.object fields) (some ⟨extent, count⟩)
  | named {fields definition : Fields} {extent : Extent} {value : Value} {count : Nat}
      (unflat : fields.string? "kind" = none)
      (nested : Check.nested? fields = some (kind.names.check extent, definition))
      (held : definition.firstHeld? ["value", "minimum", "maximum", "length", "size"] = some value)
      (counts : value.Counts count) :
      Lists kind (.object fields) (some ⟨extent, count⟩)
  | otherFlat {fields : Fields} {name : String} (named : fields.string? "kind" = some name)
      (other : ∀ extent, name ≠ kind.names.method extent) : Lists kind (.object fields) none
  | otherNamed {fields definition : Fields} {name : String}
      (unflat : fields.string? "kind" = none)
      (nested : Check.nested? fields = some (name, definition))
      (other : ∀ extent, (Check.ofNamed name definition).kind ≠ kind.names.method extent) :
      Lists kind (.object fields) none
  | malformed {entry : Value}
      (shapeless : ∀ fields : Fields, entry = .object fields →
        fields.string? "kind" = none ∧ Check.nested? fields = none) : Lists kind entry none

/-- What a definition of a kind states about the size: bounds in its own fields, and the list of
checks. -/
structure SizedKind.States (kind : SizedKind) (definition : Fields) (direct : Extent → Option Nat)
    (listed : List (Option CountBound)) : Prop where
  fields : ∀ extent ∈ kind.extents, CountField (definition.get? (kind.key extent)) (direct extent)
  checks : List.Forall₂ kind.Lists definition.checkEntries listed

/-- All bounds that are stated, in order: the fields of the definition before its checks. -/
def SizedKind.stated (kind : SizedKind) (direct : Extent → Option Nat)
    (listed : List (Option CountBound)) : List CountBound :=
  kind.extents.filterMap (fun extent => (direct extent).map (CountBound.mk extent))
    ++ listed.reduceOption

/-! ## Calls and their meaning -/

/-- Each call once, in the order in which they are first stated. -/
structure IsMerged (stated written : List String) : Prop where
  same : ∀ call, call ∈ written ↔ call ∈ stated
  order : written.Pairwise (stated.idxOf · < stated.idxOf ·)

theorem IsMerged.nodup {stated written : List String} (merged : IsMerged stated written) :
    written.Nodup :=
  merged.order.imp fun {_ _} before same => absurd (same ▸ before) (Nat.lt_irrefl _)

/-- One more call is added just if it is new. -/
theorem eraseDups_concat (calls : List String) (call : String) :
    (calls ++ [call]).eraseDups =
      if call ∈ calls then calls.eraseDups else calls.eraseDups ++ [call] := by
  rw [List.eraseDups_append]
  split
  next known => simp [List.removeAll, known]
  next new => simp [List.removeAll, new, List.eraseDups_cons]

theorem isMerged_eraseDups (stated : List String) : IsMerged stated stated.eraseDups := by
  refine ⟨fun call => List.mem_eraseDups, ?_⟩
  induction stated using List.reverseRecOn with
  | nil => exact List.Pairwise.nil
  | append_singleton calls call ih =>
    have kept : calls.eraseDups.Pairwise
        ((calls ++ [call]).idxOf · < (calls ++ [call]).idxOf ·) := by
      refine ih.imp_of_mem fun {first second} inside insideToo before => ?_
      rwa [List.idxOf_append_of_mem (List.mem_eraseDups.mp inside),
        List.idxOf_append_of_mem (List.mem_eraseDups.mp insideToo)]
    rw [eraseDups_concat]
    split
    next => exact kept
    next new =>
      refine List.pairwise_append.mpr ⟨kept, List.pairwise_singleton _ _, ?_⟩
      intro first inside last here
      have inside := List.mem_eraseDups.mp inside
      rw [List.mem_singleton.mp here, List.idxOf_append_of_mem inside,
        List.idxOf_append_of_notMem new]
      exact Nat.lt_of_lt_of_le (List.idxOf_lt_length_iff.mpr inside) (Nat.le_add_right _ _)

namespace SizedKind

variable {kind : SizedKind}

theorem notMem_method (extent : Extent) : '(' ∉ (kind.names.method extent).toList := by
  cases kind <;> cases extent <;> decide

theorem method_inj {extent other : Extent}
    (same : kind.names.method extent = kind.names.method other) : extent = other := by
  cases kind <;> cases extent <;> cases other <;> first | rfl | exact absurd same (by decide)

theorem callText_inj {extent other : Extent} {argument another : String}
    (same : callText (kind.names.method extent) argument =
      callText (kind.names.method other) another) : extent = other ∧ argument = another := by
  have letters := congrArg String.toList same
  simp only [callText, String.toList_append, List.append_assoc] at letters
  obtain ⟨methods, arguments⟩ := Text.append_mark_inj (notMem_method extent)
    (notMem_method other) (List.append_cancel_left letters)
  exact ⟨method_inj (String.toList_inj.mp methods),
    String.toList_inj.mp (List.append_cancel_right arguments)⟩

theorem evaluate?_toString (n : Nat) : Numeral.evaluate? "" (toString n) = some (n : Int) := by
  have read := Numeral.evaluate?_digits (.inl rfl) (n : Int)
  rwa [Double.toString_ofNat, String.append_empty] at read

/-- A call says what its bound says. -/
theorem passes_text (bound : CountBound) (size : Nat) :
    kind.Passes (kind.text bound) size ↔ bound.Admits size := by
  constructor
  · rintro ⟨⟨extent, count⟩, argument, same, read, admits⟩
    obtain ⟨extents, arguments⟩ := callText_inj same
    rw [← arguments, evaluate?_toString] at read
    have counts : bound.count = count := by exact_mod_cast Option.some.inj read
    obtain ⟨extent', count'⟩ := bound
    obtain rfl : extent' = extent := extents
    obtain rfl : count' = count := counts
    exact admits
  · intro admits
    exact ⟨bound, _, rfl, evaluate?_toString bound.count, admits⟩

end SizedKind

/-! ## The calls of a definition -/

theorem Value.Counts.countText {value : Value} {count : Nat} (counts : value.Counts count) :
    countText (some value) = toString count := by
  cases counts with
  | number integer small =>
    have text := Double.text_eq_toString integer (by omega)
    exact text.trans (Double.toString_ofNat count)

theorem directCall?_of_countField {definition : Fields} {key : String} {count : Option Nat}
    (field : CountField (definition.get? key) count) (method : String) :
    directCall? definition key method = count.map fun n => callText method (toString n) := by
  unfold directCall? count? Fields.held?
  generalize definition.get? key = held at field
  cases field with
  | missing => rfl
  | nothing nothing =>
    rw [Option.filter_some_neg (by simp [nothing])]
    rfl
  | @bare value count counts =>
    have text := counts.countText
    cases counts with
    | number integer small => exact congrArg (fun digits => some (callText method digits)) text
  | @wrapped fields value count field counts =>
    have inside : (Value.object fields).get? "value" = some value := field
    have object : (Value.object fields).isNothing = false := rfl
    rw [Option.filter_some_pos (by simp [object])]
    simp only [Value.isObject, inside, Option.map_some, counts.countText, if_true]

namespace SizedKind

variable {kind : SizedKind}

theorem sizeCall?_of_method {check : Check} {value : Value} {extent : Extent} {count : Nat}
    (named : check.kind = kind.names.method extent) (held : check.resolved = some value)
    (counts : value.Counts count) :
    sizeCall? kind.names.exact check = some (kind.text ⟨extent, count⟩) := by
  have bounds : check.kind = "min" ∨ check.kind = "max" ∨ check.kind = kind.names.exact := by
    rw [named]
    cases extent with
    | least => exact .inl rfl
    | greatest => exact .inr (.inl rfl)
    | exact => exact .inr (.inr rfl)
  rw [sizeCall?, if_pos bounds, held, counts.countText, named]
  rfl

theorem sizeCall?_of_other {check : Check}
    (other : ∀ extent, check.kind ≠ kind.names.method extent) :
    sizeCall? kind.names.exact check = none := by
  refine if_neg ?_
  rintro (least | greatest | exact)
  · exact other .least least
  · exact other .greatest greatest
  · exact other .exact exact

theorem sizeCall?_of_lists {entry : Value} {bound : Option CountBound}
    (lists : kind.Lists entry bound) :
    (Check.ofEntry? entry).bind (sizeCall? kind.names.exact) = bound.map kind.text := by
  cases lists with
  | @flat fields extent value count named held counts =>
    have resolved : (Check.ofFlat (kind.names.method extent) fields).resolved = some value := by
      simp only [Check.resolved, Check.ofFlat, held]
      rfl
    rw [Check.ofEntry?_flat named, Option.bind_some, sizeCall?_of_method rfl resolved counts]
    rfl
  | @named fields definition extent value count unflat nested held counts =>
    have method : (Check.ofNamed (kind.names.check extent) definition).kind =
        kind.names.method extent := by
      cases kind <;> cases extent <;> rfl
    have given : (Check.ofNamed (kind.names.check extent) definition).value = some value := by
      rw [← held]
      cases kind <;> cases extent <;> rfl
    have resolved : (Check.ofNamed (kind.names.check extent) definition).resolved =
        some value := by
      rw [Check.resolved, given]
      rfl
    rw [Check.ofEntry?_named unflat nested, Option.bind_some,
      sizeCall?_of_method method resolved counts]
    rfl
  | otherFlat named other =>
    rw [Check.ofEntry?_flat named, Option.bind_some, sizeCall?_of_other other]
    rfl
  | otherNamed unflat nested other =>
    rw [Check.ofEntry?_named unflat nested, Option.bind_some, sizeCall?_of_other other]
    rfl
  | malformed shapeless =>
    rw [Check.ofEntry?_of_shapeless shapeless]
    rfl

theorem filterMap_sizeCall? {entries : List Value} {listed : List (Option CountBound)}
    (each : List.Forall₂ kind.Lists entries listed) :
    (entries.filterMap Check.ofEntry?).filterMap (sizeCall? kind.names.exact) =
      listed.reduceOption.map kind.text := by
  rw [List.filterMap_filterMap]
  induction each with
  | nil => rfl
  | @cons entry bound entries listed lists _ ih =>
    rw [List.filterMap_cons, sizeCall?_of_lists lists, ih]
    cases bound <;> rfl

/-- The fields of the definition that hold bounds by themselves, with their methods. -/
def counts (kind : SizedKind) : List (String × String) :=
  kind.extents.map fun extent => (kind.key extent, kind.names.method extent)

/-- The calls are those of the stated bounds, each once. -/
theorem boundCalls_of_states {definition : Fields} {direct : Extent → Option Nat}
    {listed : List (Option CountBound)} (states : kind.States definition direct listed) :
    boundCalls definition kind.counts kind.names.exact =
      ((kind.stated direct listed).map kind.text).eraseDups := by
  have direct : kind.counts.filterMap (fun count => directCall? definition count.1 count.2) =
      (kind.extents.filterMap fun extent =>
        (direct extent).map (CountBound.mk extent)).map kind.text := by
    rw [counts, List.filterMap_map, List.map_filterMap]
    refine List.filterMap_congr fun extent member => ?_
    refine (directCall?_of_countField (states.fields extent member) _).trans ?_
    cases direct extent <;> rfl
  rw [boundCalls_eq, direct, Fields.checks_eq, filterMap_sizeCall? states.checks, stated,
    List.map_append]

end SizedKind

/-! ## Rendering -/

theorem Members.truthy?_map_val {whole : Value} (members : Members whole) (key : String) :
    (members.truthy? key).map (·.1) = (members.fields.get? key).filter Value.countsAsTrue := by
  rw [← members.get?_map_val key, Option.filter_map]
  rfl

theorem Members.nested?_map_val {whole : Value} (members : Members whole) (key : String) :
    (members.nested? key).map (·.1) = (members.fields.get? key).filter Value.isObject := by
  rw [← members.get?_map_val key, Option.filter_map]
  rfl

/-- The element of a definition as a part of its schema. -/
theorem orElse_map_val {whole : Value} {first second : Option (Part whole)} {element : Value}
    (found : (first.map (·.1) <|> second.map (·.1)) = some element) :
    ∃ lt, (first <|> second) = some ⟨element, lt⟩ := by
  simp only [Option.orElse_eq_orElse, Option.orElse_eq_or] at found ⊢
  rw [← Option.map_or] at found
  obtain ⟨⟨_, lt⟩, part, rfl⟩ := Option.map_eq_some_iff.mp found
  exact ⟨lt, part⟩

theorem SizedKind.view_of_element {kind : SizedKind} {reading : Reading} {whole element : Value}
    {definition : Members whole} (holds : kind.element? definition.fields = some element) :
    kind.kind.rule.view reading definition =
      .ok [.text kind.opening, .hole element,
        .text (")" ++ String.join
          (boundCalls definition.fields kind.counts kind.names.exact))] := by
  cases kind with
  | array =>
    rw [element?, ← Members.truthy?_map_val, ← Members.nested?_map_val] at holds
    obtain ⟨lt, child⟩ := orElse_map_val holds
    have rule : Kind.rule (SizedKind.kind .array) = Rule.array := rfl
    rw [rule, Rule.view, Rule.array, child]
    rfl
  | set =>
    rw [element?, ← Members.truthy?_map_val, ← Members.truthy?_map_val] at holds
    obtain ⟨lt, child⟩ := orElse_map_val holds
    have rule : Kind.rule (SizedKind.kind .set) = Rule.set := rfl
    rw [rule, Rule.view, Rule.set, child]
    rfl

/-- **Bounds of sizes are merged.** An array or a set of elements is written as its element with a
chain of calls. The chain has the call of each bound that is stated, by the fields of the definition
or by its checks, once and in the order of their first statement. A size passes all of the calls just
if all of the bounds admit it. -/
theorem Renderer.render_sizeBounds {version : Version} {node element : Value} {kind : SizedKind}
    {direct : Extent → Option Nat} {listed : List (Option CountBound)}
    (known : version.dialect.kind? node = some kind.kind)
    (holds : kind.element? (definitionIn version.dialect node).fields = some element)
    (states : kind.States (definitionIn version.dialect node).fields direct listed) :
    ∃ calls : List String,
      (∀ options, (ofVersion version).render options node =
        ((ofVersion version).render options element).map
          fun text => kind.opening ++ text ++ ")" ++ String.join calls) ∧
      IsMerged ((kind.stated direct listed).map kind.text) calls ∧ calls.Nodup ∧
      ∀ size, (∀ call ∈ calls, kind.Passes call size) ↔
        ∀ bound ∈ kind.stated direct listed, bound.Admits size := by
  obtain ⟨recognized, tagged⟩ := Dialect.of_kind? known
  have merged := isMerged_eraseDups ((kind.stated direct listed).map kind.text)
  refine ⟨_, fun options => ?_, merged, merged.nodup, fun size => ?_⟩
  · rw [render_eq_textAt, textAt_of_kind recognized tagged, SizedKind.view_of_element holds,
      SizedKind.boundCalls_of_states states]
    change Template.print options _ (fun child l => textAt version.dialect options l child) _ = _
    simp only [Template.print]
    rw [render_eq_textAt]
    cases textAt version.dialect options options.indentLevel element with
    | error fault => rfl
    | ok text =>
      refine congrArg Except.ok ?_
      simp only [String.append_empty, String.append_assoc]
  · have each : (∀ call ∈ (kind.stated direct listed).map kind.text, kind.Passes call size) ↔
        ∀ bound ∈ kind.stated direct listed, bound.Admits size := by
      rw [List.forall_mem_map]
      exact forall₂_congr fun bound _ => SizedKind.passes_text bound size
    rw [← each]
    exact forall_congr' fun call => by rw [merged.same]

/-- Bounds that are stated twice, that conflict, and that stand among entries that state none. -/
theorem Renderer.render_sizeBounds_mixed :
    let number (n : Nat) := Value.number (.ofInt n)
    let element := SchemaSource.node .v4 "String" "string" []
    let entries := [namedEntry "min_length" [("minimum", number 2)], .null,
      namedEntry "string_format" [("format", .string "email")], flatEntry "size" [],
      flatEntry "max" [("value", number 4), ("inclusive", .bool false)],
      namedEntry "length_equals" [("length", number 5)]]
    let node := kindNode "array" [("element", element), ("checks", .array entries),
      ("minLength", .object [("value", number 2)]), ("maxLength", .null),
      ("exactLength", number 3)]
    let definition := (definitionIn Version.v4.dialect node).fields
    let direct : Extent → Option Nat
      | .least => some 2
      | .greatest => none
      | .exact => some 3
    let listed := [some ⟨.least, 2⟩, none, none, none, some ⟨.greatest, 4⟩, some ⟨.exact, 5⟩]
    (Version.v4.dialect.kind? node = some SizedKind.array.kind ∧
      SizedKind.array.element? definition = some element ∧
      SizedKind.array.States definition direct listed) ∧
    ∃ calls : List String,
      (∀ options, (ofVersion .v4).render options node =
        ((ofVersion .v4).render options element).map
          fun text => "z.array(" ++ text ++ ")" ++ String.join calls) ∧
      IsMerged [".min(2)", ".length(3)", ".min(2)", ".max(4)", ".length(5)"] calls ∧
      ∀ size, ¬∀ call ∈ calls, SizedKind.array.Passes call size := by
  intro number element entries node definition direct listed
  have known : Version.v4.dialect.kind? node = some SizedKind.array.kind := rfl
  have held : SizedKind.array.element? definition = some element := rfl
  have states : SizedKind.array.States definition direct listed := by
    refine ⟨fun extent _ => ?_, ?_⟩
    · cases extent with
      | least => exact .wrapped rfl (Value.counts_ofInt (by decide))
      | greatest => exact .nothing rfl
      | exact => exact .bare (Value.counts_ofInt (by decide))
    · refine .cons ?_ (.cons ?_ (.cons ?_ (.cons ?_ (.cons ?_ (.cons ?_ .nil)))))
      · exact .named rfl rfl rfl (Value.counts_ofInt (by decide))
      · exact .malformed nofun
      · exact .otherNamed rfl rfl (by intro extent; cases extent <;> decide)
      · exact .otherFlat rfl (by intro extent; cases extent <;> decide)
      · exact .flat rfl rfl (Value.counts_ofInt (by decide))
      · exact .named rfl rfl rfl (Value.counts_ofInt (by decide))
  obtain ⟨calls, text, merged, -, passes⟩ := render_sizeBounds known held states
  refine ⟨⟨known, held, states⟩, calls, text, merged, fun size all => ?_⟩
  have exact (count : Nat) (inside : ⟨.exact, count⟩ ∈ SizedKind.array.stated direct listed) :
      size = count := (passes size).mp all ⟨.exact, count⟩ inside
  have three := exact 3 (by decide)
  have five := exact 5 (by decide)
  omega

end SchemaSource
