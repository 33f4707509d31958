import SchemaSource.Proofs.Schema
/-!
Constraints in either layout are written alike: an entry that names its kind and an entry that nests
a named check come down to the same calls.
-/
namespace SchemaSource

open Rule

/-! ## Sizes and strings -/

/-- The call that a bound of a size is written as. -/
def SizeBound.text (names : SizeNames) (bound : SizeBound) : String :=
  callText (names.method bound.extent) bound.size.text

/-- The call that a constraint of a string is written as. -/
def StringCheck.text : StringCheck → String
  | .size bound => bound.text lengthNames
  | .format name _ => callText name ""
  | .pattern regexp => callText "regex" regexp.text
  | .affix kind operand => callText kind.method (Text.quote operand)

theorem stringCall?_flat_format :
    ∀ name ∈ bareStringChecks,
      (Check.ofEntry? (flatEntry name [])).bind stringCall? = some (callText name "") := by
  decide

theorem stringCall?_named_format :
    ∀ name ∈ bareStringChecks,
      (Check.ofEntry? (formatEntry name)).bind stringCall? = some (callText name "") := by
  decide

theorem StringCheck.stringCall?_entry (layout : Version) (check : StringCheck) :
    (Check.ofEntry? (check.entry layout)).bind stringCall? = some check.text := by
  cases check with
  | size bound =>
    obtain ⟨extent, size⟩ := bound
    cases layout <;> cases extent <;> rfl
  | format name known =>
    cases layout with
    | v3 => exact stringCall?_flat_format name known
    | v4 => exact stringCall?_named_format name known
  | pattern regexp => cases layout <;> rfl
  | affix kind operand => cases layout <;> cases kind <;> rfl

theorem SizeBound.sizeCall?_length (bound : SizeBound) :
    (Check.ofEntry? (bound.entry lengthNames .v4)).bind (sizeCall? "length") =
      some (bound.text lengthNames) := by
  obtain ⟨extent, size⟩ := bound
  cases extent <;> rfl

theorem SizeBound.sizeCall?_size (bound : SizeBound) :
    (Check.ofEntry? (bound.entry setSizeNames .v4)).bind (sizeCall? "size") =
      some (bound.text setSizeNames) := by
  obtain ⟨extent, size⟩ := bound
  cases extent <;> rfl

/-! ## Ranges and dates -/

/-- Two constraints with nothing between them that a range could tell apart. -/
structure Check.Alike (c d : Check) : Prop where
  kind : c.kind = d.kind
  resolved : c.resolved = d.resolved
  inclusive : c.inclusive = d.inclusive

/-- A constraint in its uniform shape. -/
def RangeCheck.check {α : Type} {methods : List String} (value : α → Value) :
    RangeCheck α methods → Check
  | .least inclusive bound => { kind := "min", value := value bound, inclusive }
  | .greatest inclusive bound => { kind := "max", value := value bound, inclusive }
  | .multipleOf bound => { kind := "multipleOf", value := value bound }
  | .method name _ => { kind := name }

def DateCheck.check (check : DateCheck) : Check where
  kind := if check.last then "max" else "min"
  value := if check.bound.isNothing then none else check.bound

theorem ofEntry?_named_method :
    ∀ name ∈ bareNumberChecks,
      Check.ofEntry? (if name = "int" then
          namedEntry "number_format" [("format", .string "safeint")]
        else namedEntry name []) = some { kind := name } := by
  simp only [bareNumberChecks, List.forall_mem_cons]
  exact ⟨rfl, rfl, rfl, rfl, rfl, rfl, rfl, by simp⟩

/-- A flat entry has its value for every bound. -/
theorem resolved_ofFlat (kind : String) (value : Value) (fields : Fields)
    (something : value.isNothing = false) :
    (Check.ofFlat kind (("kind", .string kind) :: ("value", value) :: fields)).resolved =
      some value := by
  simp [Check.ofFlat, Check.resolved, Fields.held?, Fields.get?, something]

/-- So has a named entry under the first of the names for bounds. -/
theorem firstHeld?_value (check : String) (value : Value) (fields : Fields) (keys : List String)
    (something : value.isNothing = false) :
    Fields.firstHeld? (("check", .string check) :: ("value", value) :: fields)
      ("value" :: keys) = some value := by
  simp [Fields.firstHeld?, Fields.held?, Fields.get?, something]

theorem RangeCheck.entry_alike {α : Type} {methods : List String} (value : α → Value)
    (something : ∀ bound, (value bound).isNothing = false)
    (shared : ∀ name ∈ methods, name ∈ bareNumberChecks) (layout : Version)
    (check : RangeCheck α methods) :
    ∃ c, Check.ofEntry? (check.entry value layout) = some c ∧ c.Alike (check.check value) := by
  cases layout with
  | v3 =>
    cases check with
    | least inclusive bound =>
      exact ⟨_, rfl, rfl, resolved_ofFlat "min" _ _ (something bound), rfl⟩
    | greatest inclusive bound =>
      exact ⟨_, rfl, rfl, resolved_ofFlat "max" _ _ (something bound), rfl⟩
    | multipleOf bound =>
      exact ⟨_, rfl, rfl, resolved_ofFlat "multipleOf" _ _ (something bound), rfl⟩
    | method name known => exact ⟨_, rfl, rfl, rfl, rfl⟩
  | v4 =>
    have operand (name : String) (bound : α) :
        (Fields.firstHeld? [("check", .string name), ("value", value bound)]
          ["value", "minimum", "maximum", "length", "size"] <|> none <|> none) =
            some (value bound) := by
      rw [firstHeld?_value name _ _ _ (something bound)]
      rfl
    cases check with
    | least inclusive bound => cases inclusive <;> exact ⟨_, rfl, rfl, operand _ bound, rfl⟩
    | greatest inclusive bound => cases inclusive <;> exact ⟨_, rfl, rfl, operand _ bound, rfl⟩
    | multipleOf bound => exact ⟨_, rfl, rfl, operand _ bound, rfl⟩
    | method name known =>
      exact ⟨_, ofEntry?_named_method name (shared name known), rfl, rfl, rfl⟩

theorem numberCall?_congr {c d : Check} (h : c.Alike d) (semantic after : Bool) :
    numberCall? semantic after c = numberCall? semantic after d := by
  simp only [numberCall?, lowerCall, upperCall, isGreatestSafe, boundIs, h.kind, h.resolved,
    h.inclusive]
  rfl

theorem isLeastSafe_congr {c d : Check} (h : c.Alike d) : isLeastSafe c = isLeastSafe d := by
  simp only [isLeastSafe, boundIs, h.kind, h.resolved, h.inclusive]

theorem bigintCall?_congr {c d : Check} (h : c.Alike d) (semantic : Bool) :
    bigintCall? semantic c = bigintCall? semantic d := by
  simp only [bigintCall?, lowerCall, upperCall, h.kind, h.resolved, h.inclusive]

theorem numberCalls_entries (layout : Version) (checks : List NumberCheck)
    (semantic after : Bool) :
    numberCalls semantic after
        ((checks.map (RangeCheck.entry .number layout)).filterMap Check.ofEntry?) =
      numberCalls semantic after (checks.map (RangeCheck.check .number)) := by
  induction checks generalizing after with
  | nil => rfl
  | cons check rest ih =>
    obtain ⟨c, read, alike⟩ :=
      check.entry_alike .number (fun _ => rfl) (fun _ known => known) layout
    simp only [List.map_cons, List.filterMap_cons, read, numberCalls, ih,
      numberCall?_congr alike, isLeastSafe_congr alike]

theorem bigintCalls_entries (layout : Version) (checks : List BigintCheck) (semantic : Bool) :
    ((checks.map (RangeCheck.entry .bigint layout)).filterMap Check.ofEntry?).filterMap
        (bigintCall? semantic) =
      (checks.map (RangeCheck.check .bigint)).filterMap (bigintCall? semantic) := by
  induction checks with
  | nil => rfl
  | cons check rest ih =>
    obtain ⟨c, read, alike⟩ :=
      check.entry_alike .bigint (fun _ => rfl) (by decide) layout
    simp only [List.map_cons, List.filterMap_cons, read, ih, bigintCall?_congr alike]

theorem boundIs_eq {check : Check} {x : Double} {n : Int}
    (resolved : check.resolved = some (.number x)) (read : x.integer? = some n) (m : Int) :
    boundIs m check = (n == m) := by
  rw [boundIs, resolved, Option.bind_some, Value.number?, Option.bind_some, read]
  rfl

theorem DateCheck.entry_alike (layout : Version) (check : DateCheck) :
    ∃ c, Check.ofEntry? (check.entry layout) = some c ∧ c.kind = check.check.kind ∧
      c.resolved = check.check.resolved := by
  obtain ⟨last, bound⟩ := check
  cases layout <;> cases last <;> cases hb : bound.isNothing <;>
    exact ⟨_, rfl, rfl, by
      simp [Check.ofFlat, Check.ofNamed, Check.resolved, Fields.firstHeld?, Fields.held?,
        Fields.get?, DateCheck.check, hb]⟩

theorem dateCalls_entries (layout : Version) (checks : List DateCheck) :
    dateCalls ((checks.map (DateCheck.entry layout)).filterMap Check.ofEntry?) =
      dateCalls (checks.map DateCheck.check) := by
  induction checks with
  | nil => rfl
  | cons check rest ih =>
    obtain ⟨c, read, kind, resolved⟩ := check.entry_alike layout
    simp only [List.map_cons, List.filterMap_cons, read, dateCalls, kind, resolved, ih]

end SchemaSource
