import SchemaSource.Proofs.Nodes
import SchemaSource.Proofs.SameData
/-!
Parts of values with the same data. Either dialect reads such values alike, and templates with the
same text around such parts are filled with the same documents.
-/
namespace SchemaSource

/-! ## Members -/

section Members

variable {v w : Value}

/-- Parts of two values with the same data. -/
def Part.SameData (part : Part v) (part' : Part w) : Prop := part.1.SameData part'.1

/-- Named values of two values with the same data. -/
def Members.SameData (members : Members v) (members' : Members w) : Prop :=
  Fields.SameData members.fields members'.fields

theorem related_of_map {α β α' β' : Type} {r : α' → β' → Prop} {f : α → α'} {g : β → β'}
    {x : Option α} {y : Option β} (related : Option.Rel r (x.map f) (y.map g)) :
    Option.Rel (fun a b => r (f a) (g b)) x y := by
  cases x with
  | none =>
    cases y with
    | none => exact .none
    | some b => cases related
  | some a =>
    cases y with
    | none => cases related
    | some b =>
      cases related with
      | some here => exact .some here

theorem Part.items?_map_val (part : Part v) :
    (part.items?).map (List.map (·.1)) = part.1.items? := by
  obtain ⟨value, lt⟩ := part
  cases value with
  | array items => simp [Part.items?, Value.items?]
  | _ => rfl

theorem Part.SameData.items? {part : Part v} {part' : Part w} (same : part.SameData part') :
    Option.Rel (List.Forall₂ Part.SameData) part.items? part'.items? := by
  have items := Value.SameData.items? same
  rw [← part.items?_map_val, ← part'.items?_map_val] at items
  refine related_imp (related_of_map items) fun here => ?_
  have parts := here.forall₂
  rw [List.forall₂_map_left_iff, List.forall₂_map_right_iff] at parts
  exact parts

namespace Members.SameData

variable {members : Members v} {members' : Members w} (same : members.SameData members')
include same

theorem get? (key : String) : Option.Rel Part.SameData (members.get? key) (members'.get? key) := by
  have field := Fields.SameData.get? same key
  rw [← members.get?_map_val, ← members'.get?_map_val] at field
  exact related_of_map (r := Value.SameData) field

theorem truthy? (key : String) :
    Option.Rel Part.SameData (members.truthy? key) (members'.truthy? key) :=
  related_filter (same.get? key) Value.SameData.countsAsTrue

theorem nested? (key : String) :
    Option.Rel Part.SameData (members.nested? key) (members'.nested? key) :=
  related_filter (same.get? key) Value.SameData.isObject

theorem items (key : String) :
    List.Forall₂ Part.SameData (members.items key) (members'.items key) := by
  unfold Members.items
  exact related_cases (related_bind (same.get? key) Part.SameData.items?) .nil
    fun _ _ items => items

theorem entries : List.Forall₂ (fun entry entry' => entry.1 = entry'.1 ∧
    entry.2.SameData entry'.2) members.entries members'.entries := by
  have fields (fs gs : Fields) (same : Fields.SameData fs gs) :
      List.Forall₂ (fun field field' => field.1 = field'.1 ∧ field.2.SameData field'.2) fs gs := by
    induction fs generalizing gs with
    | nil =>
      cases same
      exact .nil
    | cons field rest ih =>
      cases same with
      | cons first others => exact .cons ⟨rfl, first.same⟩ (ih _ others)
  have related := fields _ _ same
  rw [← members.entries_map, ← members'.entries_map, List.forall₂_map_left_iff,
    List.forall₂_map_right_iff] at related
  exact related

end Members.SameData
end Members

/-! ## Dialects -/

/-- A dialect that reads values with the same data alike. -/
structure Dialect.IsBlind (dialect : Dialect) : Prop where
  recognizes {v w : Value} (same : v.SameData w) : dialect.recognizes v = dialect.recognizes w
  tag? {v w : Value} (same : v.SameData w) : dialect.tag? v = dialect.tag? w
  definition? {v w : Value} (same : v.SameData w) :
    Option.Rel Members.SameData (dialect.definition? v) (dialect.definition? w)

namespace Dialect

variable {v w : Value}

theorem members?_sameData (same : v.SameData w) :
    Option.Rel Members.SameData v.members? w.members? := by
  cases same with
  | refl =>
    cases v.members? with
    | none => exact .none
    | some members => exact .some (.refl members.fields)
  | object fields => exact .some fields
  | array | function => exact .none

theorem path?_sameData (keys : List String) (same : v.SameData w) :
    Option.Rel Members.SameData (path? v keys) (path? w keys) := by
  induction keys generalizing v w with
  | nil => exact members?_sameData same
  | cons key rest ih =>
    unfold path?
    refine related_bind (members?_sameData same) fun members => ?_
    refine related_bind (members.get? key) fun child => ?_
    exact related_bind (ih child) fun inner => .some inner

theorem classDefinition?_sameData (same : v.SameData w) :
    Option.Rel Members.SameData (classDefinition? v) (classDefinition? w) :=
  related_filter (path?_sameData _ same) fun definition =>
    congrArg Option.isSome (Fields.SameData.string? definition "typeName")

theorem innerDefinition?_sameData (same : v.SameData w) :
    Option.Rel Members.SameData (innerDefinition? v) (innerDefinition? w) :=
  related_filter (path?_sameData _ same) fun definition =>
    congrArg Option.isSome (Fields.SameData.string? definition "type")

theorem classTag?_eq (same : v.SameData w) : classTag? v = classTag? w :=
  bind_eq_of_related (classDefinition?_sameData same) fun definition => by
    rw [Fields.SameData.string? definition]

theorem isSome_eq_of_related {α β : Type} {r : α → β → Prop} {x : Option α} {y : Option β}
    (related : Option.Rel r x y) : x.isSome = y.isSome := by
  cases related <;> rfl

theorem ownTag?_eq (same : v.SameData w) : ownTag? v = ownTag? w :=
  bind_eq_of_related (same.get? "type") Value.SameData.string?

theorem isSmall_eq (same : v.SameData w) : isSmall v = isSmall w := by
  have parses : (v.get? "parse").any Value.isFunction = (w.get? "parse").any Value.isFunction :=
    related_cases (same.get? "parse") rfl fun _ _ parse => parse.isFunction
  simp only [isSmall, ownTag?_eq same, parses]

theorem isCurrent_eq (same : v.SameData w) : isCurrent v = isCurrent w := by
  simp only [isCurrent, isSmall_eq same, isSome_eq_of_related (innerDefinition?_sameData same),
    isSome_eq_of_related (classDefinition?_sameData same)]

theorem tagAt?_eq (path : List String) (same : v.SameData w) : tagAt? v path = tagAt? w path :=
  bind_eq_of_related (path?_sameData path same) fun definition =>
    Fields.SameData.string? definition "type"

theorem v3_isBlind : v3.IsBlind where
  recognizes same := isSome_eq_of_related (classDefinition?_sameData same)
  tag? same := classTag?_eq same
  definition? same := classDefinition?_sameData same

theorem v4_isBlind : v4.IsBlind where
  recognizes same := isCurrent_eq same
  tag? same := by
    simp only [v4, isCurrent_eq same, ownTag?_eq same, tagAt?_eq _ same, classTag?_eq same]
  definition? {v w} same := by
    simp only [v4, isCurrent_eq same]
    split
    · exact related_orElse (path?_sameData _ same)
        (related_orElse (path?_sameData _ same) (path?_sameData _ same))
    · exact .none

theorem isBlind (version : Version) : version.dialect.IsBlind := by
  cases version with
  | v3 => exact v3_isBlind
  | v4 => exact v4_isBlind

open Renderer (definitionIn)

theorem IsBlind.definitionIn {dialect : Dialect} (blind : dialect.IsBlind) (same : v.SameData w) :
    (definitionIn dialect v).SameData (definitionIn dialect w) := by
  unfold Renderer.definitionIn
  exact related_cases (blind.definition? same) (.refl []) fun _ _ definition => definition

end Dialect

/-! ## Templates -/

section Templates

variable {α β ε : Type}

/-- Pieces with the same text around related children. -/
inductive Piece.Related (r : α → β → Prop) : Piece α → Piece β → Prop
  | text (content : String) : Related r (.text content) (.text content)
  | hole {child : α} {child' : β} (related : r child child') :
      Related r (.hole child) (.hole child')
  | block {entries : List (String × α)} {entries' : List (String × β)}
      (related : List.Forall₂ (fun entry entry' => entry.1 = entry'.1 ∧ r entry.2 entry'.2)
        entries entries') : Related r (.block entries) (.block entries')

/-- Templates with the same text around related children. -/
abbrev Template.Related (r : α → β → Prop) : Template α → Template β → Prop :=
  List.Forall₂ (Piece.Related r)

namespace Template

variable {r : α → β → Prop}

theorem Related.single (content : String) : Related r (text content) (text content) :=
  .cons (.text content) .nil

theorem Related.append {first second : Template α} {first' second' : Template β}
    (start : Related r first first') (rest : Related r second second') :
    Related r (first ++ second) (first' ++ second') :=
  List.rel_append start rest

theorem related_list {children : List α} {children' : List β}
    (related : List.Forall₂ r children children') : Related r (list children) (list children') := by
  induction related with
  | nil => exact .nil
  | cons first others ih =>
    cases others with
    | nil => exact .cons (.hole first) .nil
    | cons second others => exact .cons (.hole first) (.cons (.text ", ") ih)

theorem related_list_between (opening closing : String) {children : List α} {children' : List β}
    (related : List.Forall₂ r children children') :
    Related r (.text opening :: list children ++ [.text closing])
      (.text opening :: list children' ++ [.text closing]) :=
  .cons (.text opening) ((related_list related).append (.single closing))

variable {render : α → Nat → Except ε Doc} {render' : β → Nat → Except ε Doc}
  (each : ∀ child child', r child child' → render child = render' child')
include each

theorem fillEntries_eq_of_related {entries : List (String × α)} {entries' : List (String × β)}
    (related : List.Forall₂ (fun entry entry' => entry.1 = entry'.1 ∧ r entry.2 entry'.2)
      entries entries') :
    fillEntries render entries = fillEntries render' entries' := by
  induction related with
  | nil => rfl
  | @cons entry entry' _ _ first _ ih =>
    obtain ⟨name, child⟩ := entry
    obtain ⟨name', child'⟩ := entry'
    obtain ⟨rfl, same⟩ := first
    simp only [fillEntries, each child child' same, ih]

theorem fillPieces_eq_of_related {template : Template α} {template' : Template β}
    (related : Related r template template') :
    fillPieces render template = fillPieces render' template' := by
  induction related with
  | nil => rfl
  | cons first _ ih =>
    cases first with
    | text content => simp only [fillPieces, ih]
    | hole same => simp only [fillPieces, each _ _ same, ih]
    | block entries => simp only [fillPieces, fillEntries_eq_of_related each entries, ih]

theorem fill_eq_of_related {template : Template α} {template' : Template β}
    (related : Related r template template') : template.fill render = template'.fill render' := by
  rw [fill, fill, fillPieces_eq_of_related each related]

end Template

/-- The same fault, or related templates. -/
inductive SameOutcome (r : α → β → Prop) :
    Except RenderFault (Template α) → Except RenderFault (Template β) → Prop
  | ok {template : Template α} {template' : Template β}
      (related : Template.Related r template template') :
      SameOutcome r (.ok template) (.ok template')
  | error (fault : RenderFault) : SameOutcome r (.error fault) (.error fault)

theorem SameOutcome.text {r : α → β → Prop} {s s' : String} (same : s = s') :
    SameOutcome r (.ok (Template.text s)) (.ok (Template.text s')) :=
  same ▸ .ok (.single s)

/-- Filling related templates gives the same document or the same fault. -/
theorem SameOutcome.fill_eq {r : α → β → Prop} {outcome : Except RenderFault (Template α)}
    {outcome' : Except RenderFault (Template β)} (same : SameOutcome r outcome outcome')
    {render : α → Nat → Except RenderFault Doc} {render' : β → Nat → Except RenderFault Doc}
    (each : ∀ child child', r child child' → render child = render' child') :
    (outcome >>= Template.fill render) = (outcome' >>= Template.fill render') := by
  cases same with
  | ok related => exact Template.fill_eq_of_related each related
  | error fault => rfl

end Templates

end SchemaSource
