import SchemaSource.Proofs.IntegerSpellings
import SchemaSource.Proofs.SchemaText
import SchemaSource.Proofs.SnapshotForm
/-!
Tables of enumerations. A table of texts, booleans, nulls and the integers that doubles tell apart,
nested in any way, is read from a snapshot and written into the source as it was, unless an object
in it could be taken for a marker.
-/
namespace SchemaSource

namespace Json

mutual

/-- JSON that does not change when it is read as a runtime value and written again. -/
def isVerbatim : Json → Bool
  | .null | .bool _ | .string _ => true
  | .int value => value.natAbs < 2 ^ 53
  | .double _ => false
  | .array items => itemsVerbatim items
  | .object members => !Marker.isOnlyName (members.map (·.1)) && membersVerbatim members

def itemsVerbatim : List Json → Bool
  | [] => true
  | item :: rest => isVerbatim item && itemsVerbatim rest

def membersVerbatim : List (String × Json) → Bool
  | [] => true
  | (_, value) :: rest => isVerbatim value && membersVerbatim rest

end

theorem member?_cons (name key : String) (first : Json) (rest : List (String × Json)) :
    member? ((name, first) :: rest) key = if name = key then some first else member? rest key := by
  by_cases here : name = key <;> simp [member?, here]

end Json

namespace Snapshot

/-! ## Reading and writing -/

mutual

theorem decode_of_isVerbatim {json : Json} (verbatim : json.isVerbatim = true) :
    ∃ value, decode json = .ok value ∧ value.toJson? = some json := by
  cases json with
  | null | bool value | string value => exact ⟨_, by rw [decode], by rw [Value.toJson?]⟩
  | int k =>
    have safe : k.natAbs < 2 ^ 53 := of_decide_eq_true verbatim
    refine ⟨_, by rw [decode], ?_⟩
    rw [Value.toJson?, Json.ofDouble_ofInt safe]
  | double x => cases verbatim
  | array items =>
    have inside : Json.itemsVerbatim items = true := verbatim
    obtain ⟨values, read, written⟩ := decodeItems_of_verbatim inside
    refine ⟨.array values, ?_, by rw [Value.toJson?, written]⟩
    rw [decode, read]
    rfl
  | object members =>
    obtain ⟨plain, inside⟩ : Marker.isOnlyName (members.map (·.1)) = false ∧
        Json.membersVerbatim members = true := by simpa [Json.isVerbatim] using verbatim
    obtain ⟨fields, read, written⟩ := decodeMembers_of_verbatim inside
    refine ⟨.object fields, ?_, by rw [Value.toJson?, written]⟩
    rw [decode_object plain, read]
    rfl

theorem decodeItems_of_verbatim {items : List Json} (verbatim : Json.itemsVerbatim items = true) :
    ∃ values, decodeItems items = .ok values ∧ Value.itemsToJson values = items := by
  match items with
  | [] => exact ⟨[], rfl, rfl⟩
  | item :: rest =>
    obtain ⟨first, others⟩ := Bool.and_eq_true_iff.mp verbatim
    obtain ⟨value, read, written⟩ := decode_of_isVerbatim first
    obtain ⟨values, reads, writes⟩ := decodeItems_of_verbatim others
    refine ⟨value :: values, ?_, by rw [Value.itemsToJson, written, writes]; rfl⟩
    rw [decodeItems, read, reads]
    rfl

theorem decodeMembers_of_verbatim {members : List (String × Json)}
    (verbatim : Json.membersVerbatim members = true) :
    ∃ fields, decodeMembers members = .ok fields ∧ Value.fieldsToJson fields = members := by
  match members with
  | [] => exact ⟨[], rfl, rfl⟩
  | (key, member) :: rest =>
    obtain ⟨first, others⟩ := Bool.and_eq_true_iff.mp verbatim
    obtain ⟨value, read, written⟩ := decode_of_isVerbatim first
    obtain ⟨fields, reads, writes⟩ := decodeMembers_of_verbatim others
    refine ⟨(key, value) :: fields, ?_, by rw [Value.fieldsToJson, written, writes]⟩
    rw [decodeMembers, read, reads]
    rfl

end

/-! ## Members of what is read -/

/-- A member is found under its name again. -/
theorem get?_of_decodeMembers {members : List (String × Json)} {fields : Fields}
    (read : decodeMembers members = .ok fields) {key : String} {json : Json}
    (found : Json.member? members key = some json) :
    ∃ value, fields.get? key = some value ∧ decode json = .ok value := by
  induction members generalizing fields with
  | nil => cases found
  | cons member rest ih =>
    obtain ⟨name, first⟩ := member
    rw [decodeMembers] at read
    obtain ⟨value, here, read⟩ := bind_eq_ok_iff.mp read
    obtain ⟨values, later, made⟩ := bind_eq_ok_iff.mp read
    cases made
    rw [Json.member?_cons] at found
    rw [Fields.get?]
    split at found
    · next same =>
      rw [if_pos same]
      cases found
      exact ⟨value, rfl, here⟩
    · next other =>
      rw [if_neg other]
      exact ih later found

/-- An object with a member that is no marker is read member by member. -/
theorem fields_of_decode {members : List (String × Json)} {value : Value}
    (read : decode (.object members) = .ok value) {key : String} {json : Json}
    (found : Json.member? members key = some json) (unmarked : Marker.ofKey? key = none) :
    ∃ fields, value = .object fields ∧ decodeMembers members = .ok fields := by
  have plain : Marker.isOnlyName (members.map (·.1)) = false := by
    match members with
    | [] => rfl
    | [(name, first)] =>
      have same : name = key := by
        rw [Json.member?_cons] at found
        by_contra other
        rw [if_neg other] at found
        cases found
      simp [Marker.isOnlyName, same, unmarked]
    | _ :: _ :: _ => rfl
  rw [decode_object plain] at read
  obtain ⟨fields, read, made⟩ := bind_eq_ok_iff.mp read
  exact ⟨fields, (Except.ok.inj made).symm, read⟩

end Snapshot

/-! ## Schemas under the name of their class -/

namespace Dialect

/-- A value whose definition names a class is a schema of that class, with the fields that the
definition has. -/
theorem v3_reads (kind : Kind) {fields definition : Fields} {name : String}
    (inner : fields.get? "_def" = some (.object definition))
    (named : definition.get? "typeName" = some (.string name)) (tag : classTag name = kind.tag) :
    Dialect.v3.Knows kind (.object fields) ∧
      (Renderer.definitionIn .v3 (.object fields)).fields = definition := by
  have typed := Fields.string?_eq_some_iff.mpr named
  have reached : ∃ lt, classDefinition? (.object fields) = some ⟨definition, lt⟩ := by
    let members : Members (.object fields) := ⟨fields, Value.fieldsWeight_lt fields⟩
    obtain ⟨lt, get⟩ := members.get?_of_field inner
    refine ⟨Nat.lt_trans (Value.fieldsWeight_lt definition) lt, ?_⟩
    rw [classDefinition?, path?, Value.members?, Option.bind_eq_bind, Option.bind_some, get]
    exact Option.filter_some_pos (congrArg Option.isSome typed)
  obtain ⟨lt, reached⟩ := reached
  refine ⟨⟨?_, ?_⟩, ?_⟩
  · exact (congrArg Option.isSome reached).trans rfl
  · change classTag? (.object fields) = some kind.tag
    simp only [classTag?, reached, Option.bind_eq_bind, Option.bind_some, typed, Option.pure_def,
      tag]
  · have given : Dialect.v3.definition? (.object fields) = some ⟨definition, lt⟩ := reached
    rw [Renderer.definitionIn, given]
    rfl

end Dialect

/-! ## Enumerations -/

/-- The text of an enumeration that lives in the host language, with the table as it was given. -/
def tableText (table : Json) : String := "z.nativeEnum(/* native enum */" ++ table.text ++ ")"

theorem Json.ofDouble_ne_object (x : Double) (members : List (String × Json)) :
    Json.ofDouble x ≠ .object members := by
  unfold Json.ofDouble
  split
  · nofun
  · split
    · split <;> nofun
    · nofun

/-- What is written as an object counts as true. -/
theorem Value.countsAsTrue_of_toJson? {value : Value} {members : List (String × Json)}
    (written : value.toJson? = some (.object members)) : value.countsAsTrue = true := by
  cases value with
  | regexp _ | object _ => rfl
  | number x =>
    rw [toJson?] at written
    exact absurd (Option.some.inj written) (Json.ofDouble_ne_object x members)
  | _ =>
    rw [toJson?] at written
    cases written

/-- A schema whose definition has a table is written with the JSON text of the table. -/
theorem render_table {fields definition : Fields} {table : Value} {members : List (String × Json)}
    (inner : fields.get? "_def" = some (.object definition))
    (named : definition.get? "typeName" = some (.string "ZodNativeEnum"))
    (given : definition.get? "values" = some table)
    (written : table.toJson? = some (.object members)) (options : Options) :
    (Renderer.ofVersion .v3).render options (.object fields) =
      .ok (tableText (.object members)) := by
  obtain ⟨knows, same⟩ := Dialect.v3_reads .nativeEnum inner named (by decide +kernel)
  have text : Rule.enumTable definition = (Json.object members).text := by
    rw [Rule.enumTable, given, Option.filter_some_pos (Value.countsAsTrue_of_toJson? written),
      Option.bind_some, Value.jsonText?, written]
    rfl
  have known : (Version.dialect .v3).Knows .nativeEnum (.object fields) := knows
  refine Renderer.render_of_view known ?_
  change Except.ok (Template.text ("z.nativeEnum(/* native enum */" ++ Rule.enumTable
    (Renderer.definitionIn .v3 (.object fields)).fields ++ ")")) = _
  rw [same, text]
  rfl

namespace Snapshot

/-- An entry whose definition names the class of these enumerations and has a table; it may have
other members too. -/
def IsEnumEntry (entry table : List (String × Json)) : Prop :=
  ∃ definition, Json.member? entry "_def" = some (.object definition) ∧
    Json.member? definition "typeName" = some (.string "ZodNativeEnum") ∧
    Json.member? definition "values" = some (.object table)

/-- An entry that has nothing else. -/
def enumEntry (table : List (String × Json)) : List (String × Json) :=
  [("_def", .object [("values", .object table), ("typeName", .string "ZodNativeEnum")])]

theorem render_of_isEnumEntry {entry table : List (String × Json)}
    (shape : IsEnumEntry entry table) (verbatim : (Json.object table).isVerbatim = true)
    {value : Value} (read : decode (.object entry) = .ok value) (options : Options) :
    (Renderer.ofVersion .v3).render options value = .ok (tableText (.object table)) := by
  obtain ⟨definition, inner, named, given⟩ := shape
  obtain ⟨fields, rfl, members⟩ := fields_of_decode read inner rfl
  obtain ⟨inside, innerField, readInside⟩ := get?_of_decodeMembers members inner
  obtain ⟨parts, rfl, readParts⟩ := fields_of_decode readInside named rfl
  obtain ⟨name, nameField, readName⟩ := get?_of_decodeMembers readParts named
  obtain ⟨values, tableField, readTable⟩ := get?_of_decodeMembers readParts given
  obtain ⟨known, readKnown, written⟩ := decode_of_isVerbatim verbatim
  obtain rfl : known = values := Except.ok.inj (readKnown.symm.trans readTable)
  obtain rfl : .string "ZodNativeEnum" = name := by
    rw [decode] at readName
    exact Except.ok.inj readName
  exact render_table innerField nameField tableField written options

theorem decode_enumEntry {table : List (String × Json)}
    (verbatim : (Json.object table).isVerbatim = true) :
    ∃ value, decode (.object (enumEntry table)) = .ok value := by
  obtain ⟨known, readTable, -⟩ := decode_of_isVerbatim verbatim
  have definition : ∃ value, decode (.object [("values", .object table),
      ("typeName", .string "ZodNativeEnum")]) = .ok value := by
    rw [decode_object rfl]
    simp only [decodeMembers, readTable]
    exact ⟨_, rfl⟩
  obtain ⟨value, read⟩ := definition
  rw [enumEntry, decode_object rfl]
  simp only [decodeMembers, read]
  exact ⟨_, rfl⟩

/-- **A table is written as the snapshot has it.** Reading and writing are inverse on JSON that they
do not change. So an entry with such a table reads as a schema, and every schema that reads from an
entry with it is written with the compact text of the table. -/
theorem table_verbatim :
    (∀ json : Json, json.isVerbatim = true →
      ∃ value, decode json = .ok value ∧ value.toJson? = some json) ∧
    ∀ table : List (String × Json), (Json.object table).isVerbatim = true →
      (∃ value, decode (.object (enumEntry table)) = .ok value) ∧
      IsEnumEntry (enumEntry table) table ∧
      ∀ (entry : List (String × Json)) (value : Value) (options : Options),
        IsEnumEntry entry table → decode (.object entry) = .ok value →
          (Renderer.ofVersion .v3).render options value = .ok (tableText (.object table)) := by
  refine ⟨fun json verbatim => decode_of_isVerbatim verbatim, fun table verbatim =>
    ⟨decode_enumEntry verbatim, ⟨_, rfl, rfl, rfl⟩, ?_⟩⟩
  intro entry value options shape read
  exact render_of_isEnumEntry shape verbatim read options

/-- A table with all kinds of members, one of them an object that has the name of a marker among
others. -/
def mixedTable : List (String × Json) :=
  [("Up", .int 1), ("1", .string "Up\n"), ("least", .int (-9007199254740991)),
   ("more", .object [("$date", .null), ("list", .array [.bool true, .object []])])]

theorem table_verbatim_mixed :
    let entry := [("_def", Json.object [("typeName", .string "ZodNativeEnum"),
      ("description", .object [("$undefined", .null)]), ("values", .object mixedTable)])]
    (Json.object mixedTable).isVerbatim = true ∧ IsEnumEntry entry mixedTable ∧
      ∃ value, decode (.object entry) = .ok value ∧
        (Renderer.ofVersion .v3).render {} value = .ok
          ("z.nativeEnum(/* native enum */\x7b\"Up\":1,\"1\":\"Up\\n\",\"least\":-9007199254740991,"
            ++ "\"more\":\x7b\"$date\":null,\"list\":[true,\x7b\x7d]\x7d\x7d)") := by
  intro entry
  have verbatim : (Json.object mixedTable).isVerbatim = true := by decide
  have shape : IsEnumEntry entry mixedTable := ⟨_, rfl, rfl, rfl⟩
  obtain ⟨value, read⟩ : ∃ value, decode (.object entry) = .ok value := ⟨_, rfl⟩
  refine ⟨verbatim, shape, value, read, ?_⟩
  rw [(table_verbatim.2 mixedTable verbatim).2.2 entry value {} shape read]
  decide +kernel

end Snapshot
end SchemaSource
