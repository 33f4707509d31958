import Mathlib.Data.List.Basic
import SchemaSource.Proofs.SchemaTemplate
/-!
One text for every layout. Each layout of a node leads the rules to the template of its schema, so a
graph that mixes layouts is rendered as a graph of one layout is.
-/
namespace SchemaSource

open Rule

/-- What a layout can say of a node: a discriminator that has a name, a schema for unnamed
properties that is no policy, and under a class each bound of a size once and in one order. -/
def Schema.HasLayout (layout : Version) : Schema → Prop
  | .array bounds _ =>
    layout = .v3 → (bounds.map (·.extent)).Sublist [.least, .greatest, .exact]
  | .set bounds _ => layout = .v3 → (bounds.map (·.extent)).Sublist [.least, .greatest]
  | .openObject _ catchall => catchall ≠ .bare .unknown ∧ catchall ≠ .bare .never
  | .discriminatedUnion discriminator _ => discriminator ≠ ""
  | _ => True

/-- Either layout can hold the node. -/
def Schema.HasLayouts (s : Schema) : Prop := ∀ layout, s.HasLayout layout

/-! ## Bounds of sizes -/

theorem directCall?_countField {fields : Fields} {key : String} {bounds : List SizeBound}
    {extent : Extent} (names : SizeNames)
    (field : fields.get? key = some (countField bounds extent)) :
    directCall? fields key (names.method extent) =
      (bounds.find? (·.extent = extent)).map (·.text names) := by
  cases found : bounds.find? (·.extent = extent) with
  | none =>
    simp only [directCall?, count?, Fields.held?, field, countField, found]
    rfl
  | some bound =>
    have same : bound.extent = extent := by simpa using List.find?_some found
    subst same
    simp only [directCall?, count?, Fields.held?, field, countField, found]
    rfl

/-- Bounds that keep to an order of extents are found again by going through that order. -/
theorem filterMap_find?_extent {bounds : List SizeBound} {extents : List Extent}
    (order : (bounds.map (·.extent)).Sublist extents) (once : extents.Nodup) :
    extents.filterMap (fun extent => bounds.find? (·.extent = extent)) = bounds := by
  induction extents generalizing bounds with
  | nil =>
    have none : bounds = [] := List.map_eq_nil_iff.mp (List.sublist_nil.mp order)
    rw [none]
    rfl
  | cons extent rest ih =>
    obtain ⟨fresh, onceLater⟩ := List.nodup_cons.mp once
    rcases List.sublist_cons_iff.mp order with skipped | ⟨others, taken, order⟩
    · have missing : bounds.find? (·.extent = extent) = none := by
        rw [List.find?_eq_none]
        intro bound member same
        have same : bound.extent = extent := by simpa using same
        exact fresh (same ▸ skipped.subset (List.mem_map_of_mem member))
      rw [List.filterMap_cons, missing, ih skipped onceLater]
    · obtain ⟨bound, tail, rfl, rfl, rfl⟩ := List.map_eq_cons_iff.mp taken
      have here : (bound :: tail).find? (·.extent = bound.extent) = some bound := by simp
      have later : rest.filterMap (fun e => (bound :: tail).find? (·.extent = e)) =
          rest.filterMap fun e => tail.find? (·.extent = e) := by
        apply List.filterMap_congr
        intro e member
        have other : ¬bound.extent = e := fun same => fresh (same ▸ member)
        simp [other]
      rw [List.filterMap_cons, here, later, ih order onceLater]

theorem boundCalls_eq (fields : Fields) (counts : List (String × String)) (exact : String) :
    boundCalls fields counts exact =
      (counts.filterMap (fun count => directCall? fields count.1 count.2) ++
        fields.checks.filterMap (sizeCall? exact)).eraseDups := rfl

theorem boundCalls_of_counts {fields : Fields} {counts : List (String × String)}
    {bounds : List SizeBound} {extents : List Extent} (names : SizeNames) (key : Extent → String)
    (shape : counts = extents.map fun extent => (key extent, names.method extent))
    (fieldsOf : ∀ extent ∈ extents, fields.get? (key extent) = some (countField bounds extent))
    (order : (bounds.map (·.extent)).Sublist extents) (once : extents.Nodup)
    (unchecked : fields.get? "checks" = none) (exact : String) :
    boundCalls fields counts exact = (bounds.map (·.text names)).eraseDups := by
  have direct : counts.filterMap (fun count => directCall? fields count.1 count.2) =
      bounds.map (·.text names) := by
    rw [shape, List.filterMap_map]
    have each : extents.filterMap (fun extent =>
          directCall? fields (key extent) (names.method extent)) =
        extents.filterMap fun extent => (bounds.find? (·.extent = extent)).map (·.text names) :=
      List.filterMap_congr fun extent member =>
        directCall?_countField names (fieldsOf extent member)
    exact each.trans (by rw [← List.map_filterMap, filterMap_find?_extent order once])
  rw [boundCalls_eq, direct, checks_of_missing unchecked]
  exact congrArg List.eraseDups (List.append_nil _)

theorem boundCalls_of_checks {fields : Fields} {counts : List (String × String)}
    {bounds : List SizeBound} {names : SizeNames} {exact : String}
    (each : ∀ bound : SizeBound,
      (Check.ofEntry? (bound.entry names .v4)).bind (sizeCall? exact) = some (bound.text names))
    (uncounted : ∀ count ∈ counts, fields.get? count.1 = none)
    (entries : fields.get? "checks" = some (.array (bounds.map (SizeBound.entry names .v4)))) :
    boundCalls fields counts exact = (bounds.map (·.text names)).eraseDups := by
  have direct : counts.filterMap (fun count => directCall? fields count.1 count.2) = [] := by
    rw [List.filterMap_eq_nil_iff]
    intro count member
    simp only [directCall?, count?, Fields.held?, uncounted count member]
    rfl
  rw [boundCalls_eq, direct, checks_of_field entries, calls_of_entries each]
  rfl

/-- The field of a class for the bound of an array's length. -/
def lengthKey : Extent → String
  | .least => "minLength"
  | .greatest => "maxLength"
  | .exact => "exactLength"

/-- The field of a class for the bound of a set's size. No class has one for an exact size. -/
def sizeKey : Extent → String
  | .least => "minSize"
  | .greatest => "maxSize"
  | .exact => "exactSize"

theorem extents_nodup : [Extent.least, .greatest, .exact].Nodup := by decide

theorem sizeExtents_nodup : [Extent.least, .greatest].Nodup :=
  extents_nodup.sublist (List.sublist_append_left [.least, .greatest] [Extent.exact])

/-! ## Either layout leads to the template -/

/-- What a rule leaves of a node. -/
def Kind.viewOf (kind : Kind) (dialect : Dialect) (o : Optimizations) (node : Value) :
    Except RenderFault (Template Value) :=
  kind.rule.view ⟨dialect, o⟩ (Renderer.definitionIn dialect node)

theorem Bare.view_node {dialect : Dialect} {node : Value} (o : Optimizations) (kind : Bare) :
    kind.kind.viewOf dialect o node = .ok (.text ("z." ++ kind.tag ++ "()")) := by
  cases kind <;> rfl

/-- A schema for unnamed properties that is no policy is not taken for one. -/
theorem Schema.tag_of_open (inner : Version) {layout : Version}
    {shape : List (String × Schema)} {catchall : Schema}
    (fits : (openObject shape catchall).HasLayout layout) :
    ((catchall.kind inner).tag != "unknown") = true ∧
      ((catchall.kind inner).tag != "never") = true := by
  have other (kind : Bare) (different : catchall ≠ .bare kind) :
      (catchall.kind inner).tag ≠ kind.kind.tag :=
    fun same => different (eq_bare_of_kind (Kind.eq_of_tag_eq same))
  exact ⟨bne_iff_ne.mpr (other .unknown fits.1), bne_iff_ne.mpr (other .never fits.2)⟩

theorem Schema.ofCatchall_of_open {inner layout : Version} {shape : List (String × Schema)}
    {catchall : Schema} (fits : (openObject shape catchall).HasLayout layout) :
    KeyPolicy.ofCatchall (some (catchall.kind inner).tag) = .strip := by
  have unknown := bne_iff_ne.mp (tag_of_open inner fits).1
  have never := bne_iff_ne.mp (tag_of_open inner fits).2
  unfold KeyPolicy.ofCatchall
  split
  next same => exact absurd (Option.some.inj same) unknown
  next same => exact absurd (Option.some.inj same) never
  next => rfl

/-- A bare function is no schema by itself. -/
theorem Schema.kind_ne_transform {layout : Version} (s : Schema) : s.kind layout ≠ .transform := by
  cases s with
  | bare kind => cases kind <;> exact Kind.noConfusion
  | modified modifier inner => cases modifier <;> exact Kind.noConfusion
  | _ => cases layout <;> exact Kind.noConfusion

theorem Schema.discriminator_counts {layout : Version} {discriminator : String}
    {options : List Schema} (fits : (discriminatedUnion discriminator options).HasLayout layout) :
    (Value.string discriminator).countsAsTrue = true := by
  have named : discriminator ≠ "" := fits
  simpa [Value.countsAsTrue] using named

namespace Schema

/-- The rule for a schema leaves the template of the schema, from the node that holds it. -/
def IsRead (dialect : Dialect) (layouts : Layouts) (o : Optimizations) (s : Schema) : Prop :=
  (s.kind (layouts [])).viewOf dialect o (s.encode layouts) =
    (s.template o).map (Template.map (Child.encode layouts))

section Layouts

variable {dialect : Dialect} {layouts : Layouts} (reads : ∀ path, dialect.Reads (layouts path))
  (o : Optimizations)

include reads

theorem isRead_literal (value : Value) : (literal value).IsRead dialect layouts o := by
  obtain ⟨version, rfl, here⟩ | ⟨rfl, here⟩ := (reads []).class_or_kind
  · simp only [IsRead, encode, here]
    exact view_literal (literalValue_of_value (field_of_class rfl rfl) (field_of_class rfl rfl))
  · simp only [IsRead, encode, here]
    exact view_literal (literalValue_of_values (field_of_kind rfl rfl) (field_of_kind rfl rfl))

theorem isRead_enumeration (members : List String) :
    (enumeration members).IsRead dialect layouts o := by
  obtain ⟨version, rfl, here⟩ | ⟨rfl, here⟩ := (reads []).class_or_kind
  · simp only [IsRead, encode, here]
    exact view_enumeration (enumMembers_of_values (field_of_class rfl rfl))
  · simp only [IsRead, encode, here]
    refine view_enumeration ?_
    refine (enumMembers_of_entries (field_of_kind rfl rfl) (field_of_kind rfl rfl)).trans ?_
    rw [Fields.values, List.map_map]
    rfl

theorem isRead_default (value : Primitive) (inner : Schema) :
    (Schema.default value inner).IsRead dialect layouts o := by
  have object := isObject_encode (layouts.below 0) inner
  obtain ⟨version, rfl, here⟩ | ⟨rfl, here⟩ := (reads []).class_or_kind
  · simp only [IsRead, encode, here]
    refine (view_fallback .default (field_of_class rfl rfl) object (field_of_class rfl rfl)).trans ?_
    cases value <;> rfl
  · simp only [IsRead, encode, here]
    refine (view_fallback .default (field_of_kind rfl rfl) object (field_of_kind rfl rfl)).trans ?_
    cases value <;> rfl

theorem isRead_array {bounds : List SizeBound} {element : Schema}
    (fits : (array bounds element).HasLayout (layouts [])) :
    (array bounds element).IsRead dialect layouts o := by
  have object := isObject_encode (layouts.below 0) element
  obtain ⟨version, rfl, here⟩ | ⟨rfl, here⟩ := (reads []).class_or_kind
  · simp only [IsRead, encode, here]
    refine view_array object (.inr ⟨field_of_class rfl rfl, field_of_class rfl rfl⟩)
      (boundCalls_of_counts lengthNames lengthKey rfl ?_ (fits here) extents_nodup
        (field_of_class rfl rfl) "length")
    intro extent _
    cases extent with
    | least => exact field_of_class rfl rfl
    | greatest => exact field_of_class rfl rfl
    | exact => exact field_of_class rfl rfl
  · simp only [IsRead, encode, here]
    refine view_array object (.inl (field_of_kind rfl rfl))
      (boundCalls_of_checks SizeBound.sizeCall?_length ?_ (field_of_kind rfl rfl))
    simp only [arrayCounts, List.forall_mem_cons]
    exact ⟨field_of_kind rfl rfl, field_of_kind rfl rfl, field_of_kind rfl rfl, by simp⟩

theorem isRead_set {bounds : List SizeBound} {element : Schema}
    (fits : (set bounds element).HasLayout (layouts [])) :
    (set bounds element).IsRead dialect layouts o := by
  have object := isObject_encode (layouts.below 0) element
  obtain ⟨version, rfl, here⟩ | ⟨rfl, here⟩ := (reads []).class_or_kind
  · simp only [IsRead, encode, here]
    refine view_set object (field_of_class rfl rfl)
      (boundCalls_of_counts setSizeNames sizeKey rfl ?_ (fits here) sizeExtents_nodup
        (field_of_class rfl rfl) "size")
    intro extent member
    rcases List.mem_pair.mp member with rfl | rfl
    · exact field_of_class rfl rfl
    · exact field_of_class rfl rfl
  · simp only [IsRead, encode, here]
    refine view_set object (field_of_kind rfl rfl)
      (boundCalls_of_checks SizeBound.sizeCall?_size ?_ (field_of_kind rfl rfl))
    simp only [setCounts, List.forall_mem_cons]
    exact ⟨field_of_kind rfl rfl, field_of_kind rfl rfl, by simp⟩

theorem isRead_object (policy : KeyPolicy) (shape : List (String × Schema)) :
    (object policy shape).IsRead dialect layouts o := by
  obtain ⟨version, rfl, here⟩ | ⟨rfl, here⟩ := (reads []).class_or_kind
  · simp only [IsRead, encode, here, encodeShape_eq]
    refine view_object (.inr (field_of_class rfl rfl)) ?_
    refine (decided_of_policy (field_of_class rfl rfl) rfl (field_of_class rfl rfl)
      (Bare.knows (reads [0]) .never)).trans ?_
    cases policy <;> rfl
  · simp only [IsRead, encode, here, encodeShape_eq]
    refine view_object (.inl (field_of_kind rfl rfl)) ?_
    cases policy with
    | strip => exact decided_of_nothing (field_of_kind rfl rfl) (field_of_kind rfl rfl)
    | passthrough =>
      exact (decided_of_catchall (field_of_kind rfl rfl) (field_of_kind rfl rfl)
        (Bare.knows (reads [0]) .unknown)).trans rfl
    | strict =>
      exact (decided_of_catchall (field_of_kind rfl rfl) (field_of_kind rfl rfl)
        (Bare.knows (reads [0]) .never)).trans rfl

theorem isRead_openObject {shape : List (String × Schema)} {catchall : Schema}
    (fits : (openObject shape catchall).HasLayout (layouts [])) :
    (openObject shape catchall).IsRead dialect layouts o := by
  have knows := catchall.knows (layouts.below 0) (reads [0])
  obtain ⟨version, rfl, here⟩ | ⟨rfl, here⟩ := (reads []).class_or_kind
  · simp only [IsRead, encode, here, encodeShape_eq]
    refine view_openObject (.inr (field_of_class rfl rfl)) (field_of_class rfl rfl) knows ?_
    refine (decided_of_policy (field_of_class rfl rfl) rfl (field_of_class rfl rfl) knows).trans ?_
    rw [(tag_of_open _ fits).2]
    rfl
  · simp only [IsRead, encode, here, encodeShape_eq]
    refine view_openObject (.inl (field_of_kind rfl rfl)) (field_of_kind rfl rfl) knows ?_
    refine (decided_of_catchall (field_of_kind rfl rfl) (field_of_kind rfl rfl) knows).trans ?_
    rw [(tag_of_open _ fits).1, (tag_of_open _ fits).2, ofCatchall_of_open fits]
    rfl

theorem isRead_discriminatedUnion {discriminator : String} {options : List Schema}
    (fits : (discriminatedUnion discriminator options).HasLayout (layouts [])) :
    (discriminatedUnion discriminator options).IsRead dialect layouts o := by
  obtain ⟨version, rfl, here⟩ | ⟨rfl, here⟩ := (reads []).class_or_kind
  · simp only [IsRead, encode, here, encodeAll_eq]
    refine (view_discriminatedUnion (field_of_class rfl rfl) (field_of_class rfl rfl)).trans ?_
    simp [template, Except.map, Piece.map, discriminatedOf]
  · simp only [IsRead, encode, here, encodeAll_eq]
    refine (view_union_of_discriminator (field_of_kind rfl rfl) (discriminator_counts fits)
      (field_of_kind rfl rfl)).trans ?_
    simp [template, Except.map, Piece.map, discriminatedOf]

theorem isRead_promise (inner : Schema) : (promise inner).IsRead dialect layouts o := by
  have object := isObject_encode (layouts.below 0) inner
  obtain ⟨version, rfl, here⟩ | ⟨rfl, here⟩ := (reads []).class_or_kind
  · simp only [IsRead, encode, here]
    exact view_promise object (.inr ⟨field_of_class rfl rfl, field_of_class rfl rfl⟩)
  · simp only [IsRead, encode, here]
    exact view_promise object (.inl (field_of_kind rfl rfl))

theorem isRead_transform (callback : Callback) (inner : Schema) :
    (transform callback inner).IsRead dialect layouts o := by
  have object := isObject_encode (layouts.below 0) inner
  obtain ⟨version, rfl, here⟩ | ⟨rfl, here⟩ := (reads []).class_or_kind
  · simp only [IsRead, encode, here]
    exact view_effects (field_of_class rfl rfl) object (field_of_class rfl rfl) rfl
  · simp only [IsRead, encode, here]
    exact view_pipe_transform (field_of_kind rfl rfl) object (field_of_kind rfl rfl)
      (knows_kindNode .transform _)

theorem isRead_pipe (input output : Schema) : (pipe input output).IsRead dialect layouts o := by
  have object := isObject_encode (layouts.below 0) input
  obtain ⟨version, rfl, here⟩ | ⟨rfl, here⟩ := (reads []).class_or_kind
  · simp only [IsRead, encode, here]
    exact view_pipeline (field_of_class rfl rfl) object (field_of_class rfl rfl)
      (isObject_encode _ output)
  · simp only [IsRead, encode, here]
    exact view_pipe (field_of_kind rfl rfl) object (field_of_kind rfl rfl)
      (output.knows (layouts.below 1) (reads [1])) output.kind_ne_transform

/-- Either layout of a node leads the rules to the template of its schema. -/
theorem isRead_of_hasLayout {s : Schema} (fits : s.HasLayout (layouts [])) :
    s.IsRead dialect layouts o := by
  have here := reads []
  cases s with
  | bare kind => exact kind.view_node o
  | boolean coerce => exact view_boolean (here.field rfl rfl)
  | string coerce checks => exact view_string (here.field rfl rfl) (here.field rfl rfl)
  | number coerce checks => exact view_number (here.field rfl rfl) (here.field rfl rfl)
  | bigint coerce checks => exact view_bigint (here.field rfl rfl) (here.field rfl rfl)
  | date coerce checks =>
    refine (view_date (here.field rfl rfl) (here.field rfl rfl)).trans ?_
    rw [template]
    cases dateCalls (checks.map DateCheck.check) <;> rfl
  | literal value => exact isRead_literal reads o value
  | enumeration members => exact isRead_enumeration reads o members
  | modified modifier inner =>
    have object := isObject_encode (layouts.below 0) inner
    cases modifier with
    | optional => exact view_modifier "optional" (here.field rfl rfl) object
    | nullable => exact view_modifier "nullable" (here.field rfl rfl) object
    | readonly => exact view_readonly (here.field rfl rfl) object
  | default value inner => exact isRead_default reads o value inner
  | recovery getter inner =>
    exact view_fallback .recovery (here.field rfl rfl) (isObject_encode _ inner) (here.field rfl rfl)
  | array bounds element => exact isRead_array reads o fits
  | set bounds element => exact isRead_set reads o fits
  | object policy shape => exact isRead_object reads o policy shape
  | openObject shape catchall => exact isRead_openObject reads o fits
  | record key value =>
    exact view_keyed "record" (here.field rfl rfl) (isObject_encode _ key) (here.field rfl rfl)
      (isObject_encode _ value)
  | map key value =>
    exact view_keyed "map" (here.field rfl rfl) (isObject_encode _ key) (here.field rfl rfl)
      (isObject_encode _ value)
  | tuple items =>
    rw [IsRead, encode, encodeAll_eq]
    refine (view_tuple (here.field rfl rfl) (Members.truthy?_of_false (here.field rfl rfl) rfl)).trans ?_
    simp [template, Except.map, Piece.map]
  | openTuple items rest =>
    rw [IsRead, encode, encodeAll_eq]
    refine (view_openTuple (here.field rfl rfl) (here.field rfl rfl) (isObject_encode _ rest)).trans ?_
    simp [template, Except.map, Piece.map, Child.encode]
  | union options =>
    rw [IsRead, encode, encodeAll_eq]
    refine (view_union (here.field rfl rfl) (here.field rfl rfl)).trans ?_
    simp [template, Except.map, Piece.map, unionOf]
  | discriminatedUnion discriminator options => exact isRead_discriminatedUnion reads o fits
  | intersection left right =>
    exact view_intersection (here.field rfl rfl) (isObject_encode _ left) (here.field rfl rfl)
      (isObject_encode _ right)
  | promise inner => exact isRead_promise reads o inner
  | lazy getter => rfl
  | transform callback inner => exact isRead_transform reads o callback inner
  | pipe input output => exact isRead_pipe reads o input output

end Layouts

end Schema

/-- One step of rendering, told without the value that holds the schema. -/
theorem Schema.textAt_encode {dialect : Dialect} {layouts : Layouts}
    (reads : ∀ path, dialect.Reads (layouts path)) {s : Schema}
    (fits : s.HasLayout (layouts [])) (options : Options) (level : Nat) :
    Renderer.textAt dialect options level (s.encode layouts) =
      s.template options.optimizations >>= Template.print options level fun child l =>
        Renderer.textAt dialect options l (child.encode layouts) := by
  have knows := s.knows layouts (reads [])
  rw [Renderer.textAt_of_kind knows.recognized knows.tag]
  have view := isRead_of_hasLayout reads options.optimizations fits
  rw [IsRead, Kind.viewOf] at view
  rw [view]
  cases s.template options.optimizations with
  | error fault => rfl
  | ok template => exact Template.print_map ..

/-- A schema whose template is a mere text. -/
theorem Schema.textAt_leaf {version layout : Version} (reads : version.dialect.Reads layout)
    {s : Schema} (fits : s.HasLayout layout) {options : Options} {text : String}
    (written : s.template options.optimizations = .ok (.text text)) :
    (Renderer.ofVersion version).render options (s.encode (.all layout)) = .ok text := by
  have readsAll : ∀ path, version.dialect.Reads (Layouts.all layout path) := fun _ => reads
  rw [Renderer.render_eq_textAt, textAt_encode readsAll fits, written]
  exact congrArg Except.ok (String.append_empty)

/-- Every two ways of holding a schema are rendered alike, by whatever dialects can read them. -/
theorem Schema.textAt_agrees {s : Schema} (within : s.Within HasLayouts)
    {dialect dialect' : Dialect} {layouts layouts' : Layouts}
    (reads : ∀ path, dialect.Reads (layouts path))
    (reads' : ∀ path, dialect'.Reads (layouts' path)) (options : Options) (level : Nat) :
    Renderer.textAt dialect options level (s.encode layouts) =
      Renderer.textAt dialect' options level (s.encode layouts') := by
  induction within generalizing layouts layouts' level with
  | intro s here below ih =>
    rw [textAt_encode reads (here _), textAt_encode reads' (here _)]
    cases written : s.template options.optimizations with
    | error fault => rfl
    | ok template =>
      apply Template.print_congr
      intro child member l
      have inside := holes_subset written child member
      exact ih child.1 inside (fun path => reads (child.2 :: path))
        (fun path => reads' (child.2 :: path)) l

/-- **Layouts agree.** A schema is rendered to the same text, or fails alike, whatever layout each
of its nodes has, and as the version that knows one layout renders it in that layout. -/
theorem Schema.render_encode_eq {s : Schema} (within : s.Within HasLayouts) (layouts : Layouts)
    (options : Options) :
    (Renderer.ofVersion .v4).render options (s.encode layouts) =
      (Renderer.ofVersion .v3).render options (s.encode (.all .v3)) := by
  rw [Renderer.render_eq_textAt, Renderer.render_eq_textAt]
  apply textAt_agrees within
  · intro path
    cases layouts path with
    | v3 => exact .classes .v4
    | v4 => exact .kinds
  · intro path
    exact .classes .v3

/-- An order whose nodes have their layouts in turn. -/
theorem render_encode_eq_in_turn :
    let gift : Schema := .openObject [("kind", .literal (.string "gift"))]
      (.number true [.least false (.ofInt 0), .method "int" (by decide)])
    let sale : Schema := .object .strict [("at", .date false [⟨true, .null⟩])]
    let items : Schema := .array [⟨.least, .ofInt 1⟩, ⟨.exact, .ofInt 3⟩]
      (.discriminatedUnion "kind" [gift, sale])
    let layouts : Layouts := fun path => if path.length % 2 = 0 then .v3 else .v4
    items.Within Schema.HasLayouts ∧
      (Renderer.ofVersion .v4).render {} (items.encode layouts) =
        (Renderer.ofVersion .v3).render {} (items.encode (.all .v3)) := by
  intro gift sale items layouts
  have giftWithin : gift.Within Schema.HasLayouts := by
    refine .intro gift (fun _ => ⟨nofun, nofun⟩) (List.forall_mem_cons.mpr ⟨?_, ?_⟩)
    · exact .leaf (fun _ => trivial) rfl
    · exact List.forall_mem_singleton.mpr (.leaf (fun _ => trivial) rfl)
  have saleWithin : sale.Within Schema.HasLayouts :=
    .intro sale (fun _ => trivial) (List.forall_mem_singleton.mpr (.leaf (fun _ => trivial) rfl))
  have within : items.Within Schema.HasLayouts := by
    have order : [Extent.least, .exact].Sublist [.least, .greatest, .exact] := by decide
    have named : "kind" ≠ "" := by decide
    refine .intro items (fun _ _ => order) (List.forall_mem_singleton.mpr ?_)
    refine .intro _ (fun _ => named) (List.forall_mem_cons.mpr ⟨giftWithin, ?_⟩)
    exact List.forall_mem_singleton.mpr saleWithin
  exact ⟨within, Schema.render_encode_eq within layouts {}⟩

end SchemaSource
