import SchemaSource.Value
/-!
Values inside a value. Each carries the proof that it is smaller than the whole, so that rendering
can follow any of them and still come to an end.
-/
namespace SchemaSource

/-- A value inside another. -/
abbrev Part (whole : Value) := { value : Value // value.weight < whole.weight }

/-- Named values inside another value. -/
structure Members (whole : Value) where
  fields : Fields
  inside : Value.fieldsWeight fields < whole.weight

theorem Value.fieldsWeight_lt (fields : Fields) : fieldsWeight fields < (object fields).weight := by
  simp only [weight]
  omega

theorem Value.weight_pos (value : Value) : 0 < value.weight := by
  cases value <;> simp only [Value.weight] <;> omega

variable {whole : Value}

namespace Part

/-- What is inside a part is inside the whole. -/
def widen {part : Part whole} (inner : Part part.1) : Part whole :=
  ⟨inner.1, Nat.lt_trans inner.2 part.2⟩

def items? (part : Part whole) : Option (List (Part whole)) :=
  match part with
  | ⟨.array items, h⟩ =>
    some (items.attach.map fun item => ⟨item.1, by
      have := Value.weight_le_itemsWeight item.2
      simp only [Value.weight] at h
      omega⟩)
  | _ => none

def members? (part : Part whole) : Option (Members whole) :=
  match part with
  | ⟨.object fields, h⟩ => some ⟨fields, by simp only [Value.weight] at h; omega⟩
  | _ => none

/-- The value of a call without arguments, or what it throws. A value that is no function stands for
itself. -/
def call (part : Part whole) : Except String (Part whole) :=
  match part with
  | ⟨.function (.returns value) _, h⟩ =>
    .ok ⟨value, by simp only [Value.weight, Value.outcomeWeight] at h; omega⟩
  | ⟨.function (.throws message) _, _⟩ => .error message
  | other => .ok other

end Part

namespace Members

def empty (whole : Value) : Members whole := ⟨[], whole.weight_pos⟩

instance : Inhabited (Members whole) := ⟨empty whole⟩

def widen {part : Part whole} (inner : Members part.1) : Members whole :=
  ⟨inner.fields, Nat.lt_trans inner.inside part.2⟩

def get? (members : Members whole) (key : String) : Option (Part whole) :=
  match h : members.fields.get? key with
  | some value =>
    some ⟨value,
      Nat.lt_of_le_of_lt (Value.weight_le_fieldsWeight (Fields.mem_of_get? h)) members.inside⟩
  | none => none

def truthy? (members : Members whole) (key : String) : Option (Part whole) :=
  (members.get? key).filter (·.1.countsAsTrue)

def nested? (members : Members whole) (key : String) : Option (Part whole) :=
  (members.get? key).filter (·.1.isObject)

/-- The elements under a name. What is no array has none. -/
def items (members : Members whole) (key : String) : List (Part whole) :=
  ((members.get? key).bind Part.items?).getD []

def entries (members : Members whole) : List (String × Part whole) :=
  members.fields.attach.map fun field => (field.1.1, ⟨field.1.2,
    Nat.lt_of_le_of_lt (Value.weight_le_fieldsWeight field.2) members.inside⟩)

@[simp]
theorem get?_map_val (members : Members whole) (key : String) :
    (members.get? key).map (·.1) = members.fields.get? key := by
  unfold get?
  split <;> simp_all

end Members

def Value.members? (value : Value) : Option (Members value) :=
  match value with
  | .object fields => some ⟨fields, fieldsWeight_lt fields⟩
  | _ => none

end SchemaSource
