import SchemaSource.Proofs.CallText
import SchemaSource.Snapshot
/-!
The JSON form of runtime values in a snapshot. Values that JSON lacks are written under a marker;
everything else stands for itself. Reading the form gives the value back, as long as no object looks
like a marker itself.
-/
namespace SchemaSource

/-! ## Markers -/

theorem Marker.ofKey?_key (marker : Marker) : ofKey? marker.key = some marker := by
  cases marker <;> rfl

/-- The only name is that of a marker. -/
def Marker.isOnlyName : List String → Bool
  | [name] => (ofKey? name).isSome
  | _ => false

/-! ## The form of a value -/

namespace Snapshot

/-- A payload under a marker. -/
def marked (marker : Marker) (payload : Json) : Json := .object [(marker.key, payload)]

variable (spell : Double → Json)

mutual

/-- The form of a value, given how numbers are spelled. A function is written as what a call without
arguments returns or throws. -/
def encode : Value → Json
  | .undefined => marked .undefined .null
  | .null => .null
  | .bool value => .bool value
  | .number value => spell value
  | .bigint value => marked .bigint (.string (toString value))
  | .string value => .string value
  | .date value => marked .date (.string value.isoText)
  | .regexp value =>
    marked .regex (.object [("source", .string value.source), ("flags", .string value.flags)])
  | .array items => .array (encodeItems items)
  | .object fields => .object (encodeFields fields)
  | .function called _ => encodeOutcome called

def encodeItems : List Value → List Json
  | [] => []
  | item :: rest => encode item :: encodeItems rest

def encodeFields : List (String × Value) → List (String × Json)
  | [] => []
  | (key, value) :: rest => (key, encode value) :: encodeFields rest

def encodeOutcome : Outcome → Json
  | .returns value => marked .function (encode value)
  | .throws message => marked .throws (.string message)

end

/-- Numbers are spelled as JSON numbers that stand for them, with or without a fraction. -/
def Spells : Prop := ∀ x : Double, x.isFinite = true → (spell x).double? = some x

end Snapshot

namespace Value

mutual

/-- A value has a form that reads back: there are no dates in it, its numbers are finite, and no
object in it could be taken for a marker. -/
def isEncodable : Value → Bool
  | .number value => value.isFinite
  | .date _ => false
  | .array items => itemsEncodable items
  | .object fields => !Marker.isOnlyName (Fields.keys fields) && fieldsEncodable fields
  | .function called _ => outcomeEncodable called
  | _ => true

def itemsEncodable : List Value → Bool
  | [] => true
  | item :: rest => isEncodable item && itemsEncodable rest

def fieldsEncodable : List (String × Value) → Bool
  | [] => true
  | (_, value) :: rest => isEncodable value && fieldsEncodable rest

def outcomeEncodable : Outcome → Bool
  | .returns value => isEncodable value
  | .throws _ => true

end

mutual

/-- The value with every function ending all its calls as it ends one without arguments. Two values
that are settled alike are equal where functions are compared by what they return or throw. -/
def settled : Value → Value
  | .array items => .array (settledItems items)
  | .object fields => .object (settledFields fields)
  | .function called _ => .constantFunction (settledOutcome called)
  | value => value

def settledItems : List Value → List Value
  | [] => []
  | item :: rest => settled item :: settledItems rest

def settledFields : List (String × Value) → List (String × Value)
  | [] => []
  | (key, value) :: rest => (key, settled value) :: settledFields rest

def settledOutcome : Outcome → Outcome
  | .returns value => .returns (settled value)
  | .throws message => .throws message

end

mutual

/-- Every function in a value ends all its calls alike. -/
def IsSteady : Value → Prop
  | .array items => ItemsSteady items
  | .object fields => FieldsSteady fields
  | .function called recovering => recovering = called ∧ OutcomeSteady called
  | _ => True

def ItemsSteady : List Value → Prop
  | [] => True
  | item :: rest => IsSteady item ∧ ItemsSteady rest

def FieldsSteady : List (String × Value) → Prop
  | [] => True
  | (_, value) :: rest => IsSteady value ∧ FieldsSteady rest

def OutcomeSteady : Outcome → Prop
  | .returns value => IsSteady value
  | .throws _ => True

end

mutual

/-- Only functions are ever settled otherwise than they are. -/
theorem settled_of_isSteady {value : Value} (steady : value.IsSteady) : value.settled = value := by
  cases value with
  | array items => rw [settled, settledItems_of_steady steady]
  | object fields => rw [settled, settledFields_of_steady steady]
  | function called recovering =>
    obtain ⟨same, inside⟩ := steady
    rw [settled, settledOutcome_of_steady inside, same]
    rfl
  | _ => rfl

theorem settledItems_of_steady {items : List Value} (steady : ItemsSteady items) :
    settledItems items = items := by
  match items with
  | [] => rfl
  | item :: rest => rw [settledItems, settled_of_isSteady steady.1, settledItems_of_steady steady.2]

theorem settledFields_of_steady {fields : List (String × Value)} (steady : FieldsSteady fields) :
    settledFields fields = fields := by
  match fields with
  | [] => rfl
  | (key, value) :: rest =>
    rw [settledFields, settled_of_isSteady steady.1, settledFields_of_steady steady.2]

theorem settledOutcome_of_steady {outcome : Outcome} (steady : OutcomeSteady outcome) :
    settledOutcome outcome = outcome := by
  match outcome with
  | .returns value => rw [settledOutcome, settled_of_isSteady steady]
  | .throws message => rfl

end

theorem keys_settledFields (fields : Fields) : Fields.keys (settledFields fields) = fields.keys := by
  induction fields with
  | nil => rfl
  | cons field rest ih => exact congrArg (field.1 :: ·) ih

end Value

/-! ## Payloads -/

/-- The digits of a natural number spell it. -/
theorem decimalValue_toDigits (n : Nat) : Json.Reader.decimalValue (Nat.toDigits 10 n) = n := by
  have same : Json.Reader.decimalValue (Nat.toDigits 10 n) =
      Nat.ofDigitChars 10 (Nat.toDigits 10 n) 0 := by
    simp only [Json.Reader.decimalValue, Nat.ofDigitChars, Nat.mul_comm]
  rw [same, Nat.ofDigitChars_ten_toDigits]

theorem magnitude?_toDigits (n : Nat) : integerOfText?.magnitude? (Nat.toDigits 10 n) = some n := by
  have digit {c : Char} (member : c ∈ Nat.toDigits 10 n) : c.isDigit = true :=
    Nat.isDigit_of_mem_toDigits (by decide) (by decide) member
  have all : (Nat.toDigits 10 n).all (fun c => c.isDigit || c == '_') = true :=
    List.all_eq_true.mpr fun c member => by simp [digit member]
  have kept : (Nat.toDigits 10 n).filter (· != '_') = Nat.toDigits 10 n := by
    refine List.filter_eq_self.mpr fun c member => bne_iff_ne.mpr ?_
    rintro rfl
    exact absurd (digit member) (by decide)
  cases digits : Nat.toDigits 10 n with
  | nil => exact absurd digits Nat.toDigits_ne_nil
  | cons first rest =>
    have start : first.isDigit = true := digit (digits ▸ List.mem_cons_self)
    rw [digits] at all kept
    simp only [integerOfText?.magnitude?, start, all, Bool.and_self, ↓reduceIte, kept]
    rw [← digits, decimalValue_toDigits]

/-- The decimal of an integer spells it. -/
theorem integerOfText?_toString (n : Int) : integerOfText? (toString n) = some n := by
  have read := magnitude?_toDigits n.natAbs
  have unsigned {sign : Char} (other : sign.isDigit = false) (rest : List Char) :
      Nat.toDigits 10 n.natAbs ≠ sign :: rest := by
    intro signed
    have digit : sign.isDigit = true :=
      Nat.isDigit_of_mem_toDigits (by decide) (by decide) (signed ▸ List.mem_cons_self)
    rw [digit] at other
    cases other
  rw [integerOfText?, toList_toString_int]
  by_cases negative : n < 0
  · rw [if_pos negative]
    simp only [read, Option.bind_eq_bind, Option.bind_some, Option.pure_def, Option.map_some,
      Option.some.injEq]
    omega
  · rw [if_neg negative]
    split
    · next signed => exact absurd signed (unsigned (by decide) _)
    · next signed => exact absurd signed (unsigned (by decide) _)
    · simp only [read, Option.bind_eq_bind, Option.bind_some, Option.pure_def, Option.map_some,
        Option.some.injEq]
      omega

/-! ## Reading the form -/

namespace Snapshot

variable {spell : Double → Json}

theorem decode_marked (marker : Marker) (payload : Json) :
    decode (marked marker payload) =
      match marker with
      | .undefined => .ok .undefined
      | .bigint => decodeBigint payload
      | .date => decodeDate payload
      | .regex => decodeRegex payload
      | .function => do return .thunk (← decode payload)
      | .throws => .ok (decodeThrows payload) := by
  rw [marked, decode, Marker.ofKey?_key]
  cases marker <;> rfl

theorem decode_number {json : Json} {x : Double} (stands : json.double? = some x) :
    decode json = .ok (.number x) := by
  cases json with
  | int k | double y =>
    cases stands
    rw [decode]
  | _ => cases stands

/-- An object that does not look like a marker is read member by member. -/
theorem decode_object {members : List (String × Json)}
    (plain : Marker.isOnlyName (members.map (·.1)) = false) :
    decode (.object members) = do return .object (← decodeMembers members) := by
  match members, plain with
  | [], _ => rfl
  | [(key, payload)], plain =>
    have unmarked : Marker.ofKey? key = none := by simpa [Marker.isOnlyName] using plain
    simp only [decode, unmarked, decodeMembers]
    cases decode payload <;> rfl
  | first :: second :: rest, _ => rw [decode]; simp

theorem names_encodeFields (fields : Fields) :
    (encodeFields spell fields).map (·.1) = fields.keys := by
  induction fields with
  | nil => rfl
  | cons field rest ih => exact congrArg (field.1 :: ·) ih

mutual

theorem decode_encode_value (spells : Spells spell) (value : Value)
    (fits : value.isEncodable = true) : decode (encode spell value) = .ok value.settled := by
  cases value with
  | undefined => exact decode_marked .undefined .null
  | null | bool value | string value => rfl
  | number x => exact decode_number (spells x fits)
  | bigint n =>
    rw [encode, decode_marked]
    simp only [decodeBigint, integerOfText?_toString]
    rfl
  | date d => cases fits
  | regexp r => rfl
  | array items =>
    rw [encode, decode, decode_encodeItems spells items fits]
    rfl
  | object fields =>
    obtain ⟨plain, inside⟩ : Marker.isOnlyName (Fields.keys fields) = false ∧
        Value.fieldsEncodable fields = true := by simpa [Value.isEncodable] using fits
    rw [← @names_encodeFields spell] at plain
    rw [encode, decode_object plain, decode_encodeFields spells fields inside]
    rfl
  | function called recovering =>
    rw [encode, decode_encodeOutcome spells called fits]
    rfl

theorem decode_encodeItems (spells : Spells spell) (items : List Value)
    (fit : Value.itemsEncodable items = true) :
    decodeItems (encodeItems spell items) = .ok (Value.settledItems items) := by
  match items with
  | [] => rfl
  | item :: rest =>
    obtain ⟨first, others⟩ := Bool.and_eq_true_iff.mp fit
    rw [encodeItems, decodeItems, decode_encode_value spells item first,
      decode_encodeItems spells rest others]
    rfl

theorem decode_encodeFields (spells : Spells spell) (fields : List (String × Value))
    (fit : Value.fieldsEncodable fields = true) :
    decodeMembers (encodeFields spell fields) = .ok (Value.settledFields fields) := by
  match fields with
  | [] => rfl
  | (key, value) :: rest =>
    obtain ⟨first, others⟩ := Bool.and_eq_true_iff.mp fit
    rw [encodeFields, decodeMembers, decode_encode_value spells value first,
      decode_encodeFields spells rest others]
    rfl

theorem decode_encodeOutcome (spells : Spells spell) (outcome : Outcome)
    (fits : Value.outcomeEncodable outcome = true) :
    decode (encodeOutcome spell outcome) =
      .ok (.constantFunction (Value.settledOutcome outcome)) := by
  match outcome with
  | .returns value =>
    rw [encodeOutcome, decode_marked]
    simp only [decode_encode_value spells value fits]
    rfl
  | .throws message => rfl

end

/-- **Reading inverts the form of a snapshot.** However numbers are spelled, the form of a value
reads as that value with its functions settled, which is the value itself if they all end their
calls alike. A snapshot of such values gives them back under their names and in their order, whatever
the names are: at the root none is taken for a marker. -/
theorem decode_encode (spells : Spells spell) :
    (∀ value : Value, value.isEncodable = true →
      decode (encode spell value) = .ok value.settled ∧
        (value.IsSteady → decode (encode spell value) = .ok value)) ∧
    ∀ fields : Fields, Value.fieldsEncodable fields = true →
      let snapshot := Json.object (encodeFields spell fields)
      ofJson snapshot = .ok (Value.settledFields fields) ∧
        Fields.keys (Value.settledFields fields) = fields.keys ∧
        (Value.FieldsSteady fields → ofJson snapshot = .ok fields) ∧
        ∀ text, Json.ofText? text = some snapshot → ofText text = ofJson snapshot := by
  refine ⟨fun value fits => ?_, fun fields fit => ?_⟩
  · have read := decode_encode_value spells value fits
    exact ⟨read, fun steady => read.trans (by rw [Value.settled_of_isSteady steady])⟩
  · intro snapshot
    have read : ofJson snapshot = .ok (Value.settledFields fields) := by
      rw [ofJson, decode_encodeFields spells fields fit]
      rfl
    refine ⟨read, Value.keys_settledFields fields, fun steady => ?_, fun text spelled => ?_⟩
    · rw [read, Value.settledFields_of_steady steady]
    · rw [ofText, spelled]

/-- Values of every kind that needs a marker, two of them in what a function returns. An object of
two properties may use the name of a marker. -/
def needsMarkers : Fields :=
  [("$undefined", .object
    [("$bigint", .bigint (-12)), ("missing", .undefined),
     ("shape", .thunk (.array [.regexp ⟨"^a", "i"⟩, .number (.ofInt 3)])),
     ("parse", .constantFunction (.throws "no parser"))])]

/-- The text of a snapshot whose only name looks like a marker. -/
def markerNameText : String :=
  "\x7b\"$undefined\": \x7b\"$function\": [\x7b\"$bigint\": \"-12\"\x7d]\x7d\x7d"

theorem decode_encode_needsMarkers :
    let named : Fields := [("$undefined", .thunk (.array [.bigint (-12)]))]
    Spells Json.double ∧ Value.fieldsEncodable needsMarkers = true ∧
      Value.FieldsSteady needsMarkers ∧
      ofJson (.object (encodeFields .double needsMarkers)) = .ok needsMarkers ∧
      Json.ofText? markerNameText = some (.object (encodeFields .double named)) ∧
      ofText markerNameText = .ok named := by
  intro named
  have spells : Spells Json.double := fun _ _ => rfl
  have fits : Value.fieldsEncodable needsMarkers = true := by decide +kernel
  have steady : Value.FieldsSteady needsMarkers := by
    simp [needsMarkers, Value.FieldsSteady, Value.IsSteady, Value.thunk, Value.constantFunction,
      Value.OutcomeSteady, Value.ItemsSteady]
  have spelled : Json.ofText? markerNameText = some (.object (encodeFields .double named)) := by
    cbv
  obtain ⟨-, -, named, text⟩ := (decode_encode spells).2 named rfl
  exact ⟨spells, fits, steady, ((decode_encode spells).2 needsMarkers fits).2.2.1 steady, spelled,
    (text _ spelled).trans (named ⟨⟨rfl, ⟨trivial, trivial⟩⟩, trivial⟩)⟩

end Snapshot
end SchemaSource
