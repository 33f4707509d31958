import SchemaSource.Proofs.Rendering
import SchemaSource.Proofs.Schema
/-!
Reading the nodes of a schema. A node under the name of its class is read by both dialects and a
node with an inner object by one; each tells its kind and gives back its fields.
-/
namespace SchemaSource

/-! ## Fields -/

namespace Members

variable {whole : Value} {members : Members whole} {key : String} {value : Value}

theorem get?_of_field (field : members.fields.get? key = some value) :
    ∃ lt, members.get? key = some ⟨value, lt⟩ := by
  have seen := members.get?_map_val key
  rw [field, Option.map_eq_some_iff] at seen
  obtain ⟨⟨found, lt⟩, get, same⟩ := seen
  cases same
  exact ⟨lt, get⟩

theorem get?_of_missing (missing : members.fields.get? key = none) : members.get? key = none := by
  have seen := members.get?_map_val key
  rw [missing, Option.map_eq_none_iff] at seen
  exact seen

theorem truthy?_of_field (field : members.fields.get? key = some value)
    (counts : value.countsAsTrue = true) : ∃ lt, members.truthy? key = some ⟨value, lt⟩ := by
  obtain ⟨lt, get⟩ := get?_of_field field
  refine ⟨lt, ?_⟩
  rw [truthy?, get]
  exact Option.filter_some_pos counts

theorem truthy?_of_missing (missing : members.fields.get? key = none) :
    members.truthy? key = none := by
  rw [truthy?, get?_of_missing missing]
  rfl

theorem truthy?_of_false (field : members.fields.get? key = some value)
    (counts : value.countsAsTrue = false) : members.truthy? key = none := by
  obtain ⟨lt, get⟩ := get?_of_field field
  rw [truthy?, get]
  exact Option.filter_some_neg (by simp [counts])

theorem nested?_of_field (field : members.fields.get? key = some value)
    (object : value.isObject = true) : ∃ lt, members.nested? key = some ⟨value, lt⟩ := by
  obtain ⟨lt, get⟩ := get?_of_field field
  refine ⟨lt, ?_⟩
  rw [nested?, get]
  exact Option.filter_some_pos object

theorem items_of_field {values : List Value}
    (field : members.fields.get? key = some (.array values)) :
    (members.items key).map (·.1) = values := by
  obtain ⟨lt, get⟩ := get?_of_field field
  rw [items, get]
  simp [Part.items?, Function.comp_def]

theorem entries_map (members : Members whole) :
    members.entries.map (fun entry => (entry.1, entry.2.1)) = members.fields := by
  rw [entries, List.map_map]
  exact List.attach_map_subtype_val members.fields

end Members

/-! ## Names of classes -/

namespace Text

theorem lowerChar_of_ascii {c : Char} (ascii : c.toNat < 128) : lowerChar c = [c.toLower] := by
  have each : ∀ n < 128, lowerChar (Char.ofNat n) = [(Char.ofNat n).toLower] := by decide +kernel
  simpa only [Char.ofNat_toNat] using each c.toNat ascii

theorem lowerFrom_of_ascii {cs : List Char} (ascii : ∀ c ∈ cs, c.toNat < 128) (before : List Char) :
    lowerFrom before cs = cs.map Char.toLower := by
  induction cs generalizing before with
  | nil => rfl
  | cons c rest ih =>
    have small := ascii c List.mem_cons_self
    have plain : c ≠ '\u03A3' := by
      rintro rfl
      exact absurd small (by decide)
    rw [lowerFrom, if_neg plain, lowerChar_of_ascii small,
      ih (fun d member => ascii d (List.mem_cons_of_mem _ member))]
    rfl

/-- Tables of capitals are needed only for letters outside ASCII. -/
theorem lowercase_of_ascii {s : String} (ascii : ∀ c ∈ s.toList, c.toNat < 128) :
    lowercase s = lowercaseAscii s := by
  rw [lowercase, lowercaseAscii, lowerFrom_of_ascii ascii]

end Text

theorem Dialect.classTag_of_ascii {name : String} (ascii : ∀ c ∈ name.toList, c.toNat < 128) :
    Dialect.classTag ("Zod" ++ name) = Text.lowercaseAscii name := by
  rw [Dialect.classTag, String.toList_append]
  change Text.lowercase (.ofList name.toList) = _
  rw [String.ofList_toList, Text.lowercase_of_ascii ascii]

/-! ## Nodes -/

/-- A dialect reads the nodes of a layout. -/
inductive Dialect.Reads : Dialect → Version → Prop
  | classes (version : Version) : Reads version.dialect .v3
  | kinds : Reads .v4 .v4

/-- A dialect takes a value for a schema of a kind. -/
structure Dialect.Knows (dialect : Dialect) (kind : Kind) (value : Value) : Prop where
  recognized : dialect.recognizes value = true
  tag : dialect.tag? value = some kind.tag

theorem knows_classNode (version : Version) {kind : Kind} {name : String}
    (ascii : name.toList.all (·.toNat < 128) = true) (tag : Text.lowercaseAscii name = kind.tag)
    (fields : Fields) : version.dialect.Knows kind (classNode name fields) := by
  have small : ∀ c ∈ name.toList, c.toNat < 128 := by simpa using ascii
  have named := congrArg some ((Dialect.classTag_of_ascii small).trans tag)
  cases version <;> exact ⟨rfl, named⟩

theorem knows_kindNode (kind : Kind) (fields : Fields) :
    Dialect.v4.Knows kind (kindNode kind.tag fields) := ⟨rfl, rfl⟩

theorem definitionIn_classNode (version : Version) (name : String) (fields : Fields) :
    (Renderer.definitionIn version.dialect (classNode name fields)).fields =
      ("typeName", .string ("Zod" ++ name)) :: fields := by
  cases version <;> rfl

theorem definitionIn_kindNode (tag : String) (fields : Fields) :
    (Renderer.definitionIn .v4 (kindNode tag fields)).fields =
      ("type", .string tag) :: fields := rfl

theorem field_of_class {version : Version} {name key : String} {fields : Fields}
    {value : Option Value} (other : ("typeName" == key) = false)
    (field : fields.get? key = value) :
    (Renderer.definitionIn version.dialect (classNode name fields)).fields.get? key = value := by
  rw [definitionIn_classNode, Fields.get?, if_neg (ne_of_beq_false other), field]

theorem field_of_kind {tag key : String} {fields : Fields} {value : Option Value}
    (other : ("type" == key) = false) (field : fields.get? key = value) :
    (Renderer.definitionIn .v4 (kindNode tag fields)).fields.get? key = value := by
  rw [definitionIn_kindNode, Fields.get?, if_neg (ne_of_beq_false other), field]

namespace Dialect.Reads

variable {dialect : Dialect} {layout : Version}

theorem class_or_kind (reads : dialect.Reads layout) :
    (∃ version : Version, dialect = version.dialect ∧ layout = .v3) ∨
      (dialect = .v4 ∧ layout = .v4) := by
  cases reads with
  | classes version => exact .inl ⟨version, rfl, rfl⟩
  | kinds => exact .inr ⟨rfl, rfl⟩

/-- A field that a node has in either layout is found in the layout that it has. -/
theorem field (reads : dialect.Reads layout) {name tag key : String} {fields : Fields}
    {value : Option Value} (other : ("typeName" == key || "type" == key) = false)
    (field : fields.get? key = value) :
    (Renderer.definitionIn dialect (node layout name tag fields)).fields.get? key = value := by
  obtain ⟨notName, notTag⟩ := Bool.or_eq_false_iff.mp other
  cases reads with
  | classes version => exact field_of_class notName field
  | kinds => exact field_of_kind notTag field

end Dialect.Reads

/-! ## The kinds of schemas -/

def Bare.kind : Bare → Kind
  | .undefined => .undefined
  | .null => .null
  | .void => .void
  | .any => .any
  | .unknown => .unknown
  | .never => .never
  | .nan => .nan
  | .symbol => .symbol

def Modifier.kind : Modifier → Kind
  | .optional => .optional
  | .nullable => .nullable
  | .readonly => .readonly

/-- The kind of a schema's node. Some schemas have a kind of their own in one layout only. -/
def Schema.kind (layout : Version) : Schema → Kind
  | .bare kind => kind.kind
  | .boolean _ => .boolean
  | .string .. => .string
  | .number .. => .number
  | .bigint .. => .bigint
  | .date .. => .date
  | .literal _ => .literal
  | .enumeration _ => .enumeration
  | .modified modifier _ => modifier.kind
  | .default .. => .default
  | .recovery .. => .recovery
  | .array .. => .array
  | .set .. => .set
  | .object .. | .openObject .. => .object
  | .record .. => .record
  | .map .. => .map
  | .tuple _ | .openTuple .. => .tuple
  | .union _ => .union
  | .discriminatedUnion .. =>
    match layout with
    | .v3 => .discriminatedUnion
    | .v4 => .union
  | .intersection .. => .intersection
  | .promise _ => .promise
  | .lazy _ => .lazy
  | .transform .. =>
    match layout with
    | .v3 => .effects
    | .v4 => .pipe
  | .pipe .. =>
    match layout with
    | .v3 => .pipeline
    | .v4 => .pipe

theorem Bare.knows {dialect : Dialect} {layout : Version} (reads : dialect.Reads layout)
    (kind : Bare) : dialect.Knows kind.kind (kind.node layout) := by
  cases reads with
  | classes version => cases kind <;> exact knows_classNode version rfl rfl _
  | kinds => cases kind <;> exact knows_kindNode _ _

theorem Kind.eq_of_tag_eq {kind other : Kind} (same : kind.tag = other.tag) : kind = other := by
  have found := congrArg Kind.ofTag? same
  rw [Kind.ofTag?_tag, Kind.ofTag?_tag] at found
  exact Option.some.inj found

/-- Only schemas without settings have a kind without settings. -/
theorem Schema.eq_bare_of_kind {layout : Version} {s : Schema} {kind : Bare}
    (same : s.kind layout = kind.kind) : s = .bare kind := by
  cases s with
  | bare other => cases kind <;> cases other <;> first | rfl | cases same
  | modified modifier inner => cases modifier <;> cases kind <;> cases same
  | _ => cases layout <;> cases kind <;> cases same

/-- Every schema is known by its kind, in either layout of its node. -/
theorem Schema.knows {dialect : Dialect} (layouts : Layouts) (reads : dialect.Reads (layouts []))
    (s : Schema) : dialect.Knows (s.kind (layouts [])) (s.encode layouts) := by
  obtain ⟨version, rfl, here⟩ | ⟨rfl, here⟩ := reads.class_or_kind
  · rw [here]
    cases s with
    | bare kind =>
      simp only [encode, here]
      exact kind.knows (.classes version)
    | modified modifier inner =>
      simp only [encode, here, node]
      cases modifier <;> exact knows_classNode version rfl rfl _
    | _ =>
      simp only [encode, here, node]
      exact knows_classNode version rfl rfl _
  · rw [here]
    cases s with
    | bare kind =>
      simp only [encode, here]
      exact kind.knows .kinds
    | modified modifier inner =>
      simp only [encode, here, node]
      cases modifier <;> exact knows_kindNode _ _
    | _ =>
      simp only [encode, here, node]
      exact knows_kindNode _ _

theorem Schema.isObject_encode (layouts : Layouts) (s : Schema) :
    (s.encode layouts).isObject = true := by
  cases hl : layouts [] <;> cases s <;> simp only [encode, hl] <;> rfl

theorem Value.countsAsTrue_of_isObject {value : Value} (h : value.isObject = true) :
    value.countsAsTrue = true := by
  cases value <;> first | rfl | cases h

end SchemaSource
