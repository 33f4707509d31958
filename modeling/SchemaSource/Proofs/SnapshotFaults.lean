import Mathlib.Data.List.Forall2
import SchemaSource.Proofs.Faults
import SchemaSource.Proofs.SnapshotForm
/-!
When a snapshot cannot be read. Reading goes through a JSON value in the order of its text and stops
at the first marker whose payload does not fit; nothing else makes it fail. Positions are ways from
the root, and of two positions the one with the lesser way comes first in the text.
-/
namespace SchemaSource

/-! ## Payloads -/

def withoutSign : List Char → List Char
  | '-' :: digits => digits
  | '+' :: digits => digits
  | digits => digits

/-- A digit, and then digits among which underscores may stand. -/
def IsMagnitudeText : List Char → Prop
  | [] => False
  | first :: rest => first.isDigit = true ∧ ∀ c ∈ rest, c.isDigit = true ∨ c = '_'

theorem isSome_magnitude?_iff (digits : List Char) :
    (integerOfText?.magnitude? digits).isSome = true ↔ IsMagnitudeText digits := by
  cases digits with
  | nil => simp [integerOfText?.magnitude?, IsMagnitudeText]
  | cons first rest =>
    by_cases digit : first.isDigit = true <;>
      simp [integerOfText?.magnitude?, IsMagnitudeText, digit]

/-- The texts that spell an integer. -/
theorem isSome_integerOfText?_iff (text : String) :
    (integerOfText? text).isSome = true ↔ IsMagnitudeText (withoutSign text.toList) := by
  rw [← isSome_magnitude?_iff, integerOfText?]
  generalize text.toList = letters
  split
  · next digits => cases h : integerOfText?.magnitude? digits <;> simp [withoutSign, h]
  · next digits => cases h : integerOfText?.magnitude? digits <;> simp [withoutSign, h]
  · next negative positive =>
    rw [withoutSign]
    · cases h : integerOfText?.magnitude? letters <;> simp
    · exact negative
    · exact positive

/-- A payload that a marker cannot stand for. Three of the markers take any payload. -/
inductive Marker.Unfit : Marker → Json → Prop
  | bigint {payload : Json}
      (unreadable : ∀ text, payload = .string text → ¬IsMagnitudeText (withoutSign text.toList)) :
      Unfit .bigint payload
  | date {payload : Json}
      (unreadable : ∀ text date, payload = .string text → Instant.ofText text ≠ .ok date) :
      Unfit .date payload
  | regex {payload : Json} (missing : ∀ source, payload.get? "source" ≠ some (.string source)) :
      Unfit .regex payload

namespace Snapshot

/-- What is wrong with a payload. -/
def payloadFault? : Marker → Json → Option MarkerFault
  | .bigint, payload => faultIn (decodeBigint payload)
  | .date, payload => faultIn (decodeDate payload)
  | .regex, payload => faultIn (decodeRegex payload)
  | _, _ => none

/-- A payload with a fault does not fit, and the fault names its marker. -/
theorem unfit_of_payloadFault? {marker : Marker} {payload : Json} {fault : MarkerFault}
    (wrong : payloadFault? marker payload = some fault) :
    fault.marker = marker ∧ marker.Unfit payload := by
  cases marker with
  | undefined | function | throws => cases wrong
  | bigint =>
    cases payload with
    | string text =>
      cases read : integerOfText? text with
      | some n => simp [payloadFault?, decodeBigint, read, faultIn] at wrong
      | none =>
        obtain rfl : .bigintNotInteger text = fault := by
          simpa [payloadFault?, decodeBigint, read, faultIn] using wrong
        refine ⟨rfl, .bigint ?_⟩
        rintro _ ⟨⟩ spelled
        rw [← isSome_integerOfText?_iff, read] at spelled
        cases spelled
    | _ =>
      cases wrong
      exact ⟨rfl, .bigint (fun text same => by cases same)⟩
  | date =>
    cases payload with
    | string text =>
      cases read : Instant.ofText text with
      | ok date => simp [payloadFault?, decodeDate, read, faultIn] at wrong
      | error reason =>
        obtain rfl : .dateInvalid text reason = fault := by
          simpa [payloadFault?, decodeDate, read, faultIn] using wrong
        refine ⟨rfl, .date ?_⟩
        rintro _ date ⟨⟩ valid
        rw [read] at valid
        cases valid
    | _ =>
      cases wrong
      exact ⟨rfl, .date (fun text date same => by cases same)⟩
  | regex =>
    cases read : (payload.get? "source").bind Json.string? with
    | some source => simp [payloadFault?, decodeRegex, read, faultIn] at wrong
    | none =>
      obtain rfl : .regexWithoutSource = fault := by
        simpa [payloadFault?, decodeRegex, read, faultIn] using wrong
      refine ⟨rfl, .regex ?_⟩
      intro source found
      rw [found] at read
      cases read

theorem exists_payloadFault? {marker : Marker} {payload : Json} (unfit : marker.Unfit payload) :
    ∃ fault, payloadFault? marker payload = some fault := by
  cases unfit with
  | bigint unreadable =>
    cases payload with
    | string text =>
      have unread : integerOfText? text = none := by
        rw [← Option.not_isSome_iff_eq_none, isSome_integerOfText?_iff]
        exact unreadable text rfl
      exact ⟨.bigintNotInteger text, by simp [payloadFault?, decodeBigint, unread, faultIn]⟩
    | _ => exact ⟨.bigintNotString, rfl⟩
  | date unreadable =>
    cases payload with
    | string text =>
      cases read : Instant.ofText text with
      | ok date => exact absurd read (unreadable text date rfl)
      | error reason =>
        exact ⟨.dateInvalid text reason, by simp [payloadFault?, decodeDate, read, faultIn]⟩
    | _ => exact ⟨.dateNotString, rfl⟩
  | regex missing =>
    have sourceless : (payload.get? "source").bind Json.string? = none := by
      rw [Option.bind_eq_none_iff]
      intro source found
      cases source with
      | string text => exact absurd found (missing text)
      | _ => rfl
    exact ⟨.regexWithoutSource, by simp [payloadFault?, decodeRegex, sourceless, faultIn]⟩

/-! ## Positions -/

/-- What a value that is read has read next, by its place there: the elements of an array, the
members of an object that stands for itself, and what a function returns. -/
inductive Encloses : Json → Nat → Json → Prop
  | element {items : List Json} {index : Nat} {item : Json} (found : items[index]? = some item) :
      Encloses (.array items) index item
  | member {members : List (String × Json)} {index : Nat} {name : String} {member : Json}
      (plain : Marker.isOnlyName (members.map (·.1)) = false)
      (found : members[index]? = some (name, member)) : Encloses (.object members) index member
  | answer (payload : Json) : Encloses (marked .function payload) 0 payload

/-- The positions that are visited, each with the way from the root and what stands there. -/
inductive VisitedAt : Json → List Nat → Json → Prop
  | here (json : Json) : VisitedAt json [] json
  | inside {json next inner : Json} {index : Nat} {way : List Nat}
      (step : Encloses json index next) (further : VisitedAt next way inner) :
      VisitedAt json (index :: way) inner

/-- The values that are read next, in order. -/
def enclosed : Json → List Json
  | .array items => items
  | .object [(key, payload)] =>
    match Marker.ofKey? key with
    | some .function | none => [payload]
    | some _ => []
  | .object members => members.map (·.2)
  | _ => []

/-- What is wrong with a value by itself. -/
def ownFault? : Json → Option MarkerFault
  | .object [(key, payload)] => (Marker.ofKey? key).bind (payloadFault? · payload)
  | _ => none

/-- An object stands for itself, or it is a payload under a marker. -/
theorem plain_or_marked (members : List (String × Json)) :
    Marker.isOnlyName (members.map (·.1)) = false ∨
      ∃ marker payload, Json.object members = marked marker payload := by
  match members with
  | [] => exact .inl rfl
  | [(key, payload)] =>
    cases known : Marker.ofKey? key with
    | none => exact .inl (by simp [Marker.isOnlyName, known])
    | some marker =>
      have same : marker.key = key := by simpa using List.find?_some known
      exact .inr ⟨marker, payload, by rw [marked, same]⟩
  | first :: second :: rest => exact .inl rfl

section Plain

variable {members : List (String × Json)} (plain : Marker.isOnlyName (members.map (·.1)) = false)
include plain

theorem enclosed_of_plain : enclosed (.object members) = members.map (·.2) := by
  match members, plain with
  | [], _ => rfl
  | [(key, payload)], plain =>
    have unmarked : Marker.ofKey? key = none := by simpa [Marker.isOnlyName] using plain
    simp [enclosed, unmarked]
  | first :: second :: rest, _ => rw [enclosed]; simp

theorem ownFault?_of_plain : ownFault? (.object members) = none := by
  match members, plain with
  | [], _ => rfl
  | [(key, payload)], plain =>
    have unmarked : Marker.ofKey? key = none := by simpa [Marker.isOnlyName] using plain
    simp [ownFault?, unmarked]
  | first :: second :: rest, _ => rw [ownFault?]; simp

end Plain

theorem enclosed_marked (marker : Marker) (payload : Json) :
    enclosed (marked marker payload) = if marker = .function then [payload] else [] := by
  rw [marked, enclosed, Marker.ofKey?_key]
  cases marker <;> rfl

theorem ownFault?_marked (marker : Marker) (payload : Json) :
    ownFault? (marked marker payload) = payloadFault? marker payload := by
  rw [marked, ownFault?, Marker.ofKey?_key]
  rfl

theorem encloses_iff {json next : Json} {index : Nat} :
    Encloses json index next ↔ (enclosed json)[index]? = some next := by
  constructor
  · intro step
    cases step with
    | element found => exact found
    | member plain found => rw [enclosed_of_plain plain, List.getElem?_map, found]; rfl
    | answer => rw [enclosed_marked]; rfl
  · intro found
    cases json with
    | array items => exact .element found
    | object members =>
      obtain plain | ⟨marker, payload, same⟩ := plain_or_marked members
      · rw [enclosed_of_plain plain, List.getElem?_map, Option.map_eq_some_iff] at found
        obtain ⟨⟨name, member⟩, found, rfl⟩ := found
        exact .member plain found
      · rw [same, enclosed_marked] at found
        rw [same]
        split at found
        next function =>
          obtain ⟨rfl, rfl⟩ : index = 0 ∧ payload = next := by
            cases index <;> simp_all
          exact function ▸ .answer payload
        next => cases found
    | null | bool | int | double | string => cases found

theorem sizeOf_enclosed {json next : Json} (inside : next ∈ enclosed json) :
    sizeOf next < sizeOf json := by
  cases json with
  | array items =>
    have smaller : sizeOf next < sizeOf items := List.sizeOf_lt_of_mem inside
    simp only [Json.array.sizeOf_spec]
    omega
  | object members =>
    have member : next ∈ members.map (·.2) := by
      obtain plain | ⟨marker, payload, same⟩ := plain_or_marked members
      · exact enclosed_of_plain plain ▸ inside
      · rw [same, enclosed_marked] at inside
        cases same
        split at inside
        · exact inside
        · cases inside
    obtain ⟨⟨name, value⟩, entry, rfl⟩ := List.mem_map.mp member
    have smaller : sizeOf (name, value) < sizeOf members := List.sizeOf_lt_of_mem entry
    simp only [Json.object.sizeOf_spec, Prod.mk.sizeOf_spec] at smaller ⊢
    omega
  | null | bool | int | double | string => cases inside

theorem faultIn_decodeItems (items : List Json) :
    faultIn (decodeItems items) = items.findSome? fun item => faultIn (decode item) := by
  induction items with
  | nil => rfl
  | cons item rest ih =>
    have later (value : Value) : faultIn (do return value :: (← decodeItems rest)) =
        rest.findSome? fun item => faultIn (decode item) := (faultIn_map _ _).trans ih
    rw [decodeItems, faultIn_bind later, List.findSome?_cons]
    cases faultIn (decode item) <;> rfl

theorem faultIn_decodeMembers (members : List (String × Json)) :
    faultIn (decodeMembers members) =
      members.findSome? fun member => faultIn (decode member.2) := by
  induction members with
  | nil => rfl
  | cons member rest ih =>
    obtain ⟨name, json⟩ := member
    have later (value : Value) : faultIn (do return (name, value) :: (← decodeMembers rest)) =
        rest.findSome? fun member => faultIn (decode member.2) := (faultIn_map _ _).trans ih
    rw [decodeMembers, faultIn_bind later, List.findSome?_cons]
    cases faultIn (decode json) <;> rfl

/-- A value fails by itself, or at the first of the values in it that fails. -/
theorem faultIn_decode (json : Json) :
    faultIn (decode json) =
      (ownFault? json).or ((enclosed json).findSome? fun next => faultIn (decode next)) := by
  cases json with
  | array items =>
    rw [decode, faultIn_map, faultIn_decodeItems]
    rfl
  | object members =>
    obtain plain | ⟨marker, payload, same⟩ := plain_or_marked members
    · rw [decode_object plain, faultIn_map, faultIn_decodeMembers, ownFault?_of_plain plain,
        enclosed_of_plain plain, List.findSome?_map]
      rfl
    · rw [same, decode_marked, ownFault?_marked, enclosed_marked]
      cases marker with
      | function =>
        have returned : faultIn (do return Value.thunk (← decode payload)) =
            faultIn (decode payload) := faultIn_map _ _
        rw [if_pos rfl, List.findSome?_singleton]
        exact returned
      | undefined | throws => rfl
      | bigint | date | regex => exact (Option.or_none).symm
  | null | bool | int | double | string => rfl

/-! ## The first fault -/

/-- Where reading succeeds, nothing that is visited is wrong by itself. -/
theorem ownFault?_of_visited {json inner : Json} {way : List Nat}
    (visited : VisitedAt json way inner) (clean : faultIn (decode json) = none) :
    ownFault? inner = none := by
  induction visited with
  | here json => exact (Option.or_eq_none_iff.mp (faultIn_decode json ▸ clean)).1
  | inside step _ ih =>
    rw [faultIn_decode, Option.or_eq_none_iff, List.findSome?_eq_none_iff] at clean
    exact ih (clean.2 _ (List.mem_of_getElem? (encloses_iff.mp step)))

/-- Something wrong stands at a position, and nothing wrong stands before it. -/
structure FirstFault (json : Json) (fault : MarkerFault) (way : List Nat) (inner : Json) :
    Prop where
  visited : VisitedAt json way inner
  wrong : ownFault? inner = some fault
  first : ∀ {way' other}, VisitedAt json way' other → way' < way → ownFault? other = none

/-- Where reading fails, it fails for the first thing that is wrong by itself. -/
theorem exists_firstFault {json : Json} {fault : MarkerFault}
    (failed : faultIn (decode json) = some fault) :
    ∃ way inner, FirstFault json fault way inner := by
  induction size : sizeOf json using Nat.strongRecOn generalizing json with
  | ind n ih =>
    rw [faultIn_decode, Option.or_eq_some_iff] at failed
    obtain own | ⟨fine, failed⟩ := failed
    · exact ⟨[], json, .here json, own, fun _ earlier => absurd earlier (List.not_lt_nil _)⟩
    obtain ⟨before, next, after, split, failed, clean⟩ := List.findSome?_eq_some_iff.mp failed
    have member : next ∈ enclosed json := by simp [split]
    obtain ⟨way, inner, visited, wrong, first⟩ :=
      ih (sizeOf next) (size ▸ sizeOf_enclosed member) failed rfl
    have place : Encloses json before.length next := encloses_iff.mpr (by simp [split])
    refine ⟨before.length :: way, inner, .inside place visited, wrong, ?_⟩
    intro way' other visited' earlier
    cases visited' with
    | here => exact fine
    | @inside _ next' _ index rest step further =>
      rw [encloses_iff, split] at step
      rcases List.cons_lt_cons_iff.mp earlier with sooner | ⟨rfl, sooner⟩
      · rw [List.getElem?_append_left sooner] at step
        exact ownFault?_of_visited further (clean next' (List.mem_of_getElem? step))
      · obtain rfl : next = next' := by simpa using step
        exact first further sooner

/-- What is wrong by itself is a marker whose payload does not fit. -/
theorem ownFault?_eq_some {json : Json} {fault : MarkerFault}
    (wrong : ownFault? json = some fault) :
    ∃ payload, json = marked fault.marker payload ∧ fault.marker.Unfit payload := by
  cases json with
  | object members =>
    obtain plain | ⟨marker, payload, same⟩ := plain_or_marked members
    · rw [ownFault?_of_plain plain] at wrong
      cases wrong
    · rw [same, ownFault?_marked] at wrong
      obtain ⟨rfl, unfit⟩ := unfit_of_payloadFault? wrong
      exact ⟨payload, same, unfit⟩
  | null | bool | int | double | string | array => cases wrong

/-- A marker whose payload does not fit is wrong by itself. -/
theorem isSome_ownFault?_marked {marker : Marker} {payload : Json}
    (unfit : marker.Unfit payload) : (ownFault? (marked marker payload)).isSome = true := by
  rw [ownFault?_marked, Option.isSome_iff_exists]
  exact exists_payloadFault? unfit

/-- A marker whose payload does not fit stands at a visited position. -/
def HasUnfit (json : Json) (way : List Nat) (marker : Marker) : Prop :=
  ∃ payload, VisitedAt json way (marked marker payload) ∧ marker.Unfit payload

theorem decode_eq_error_iff (json : Json) :
    (∃ fault, decode json = .error fault) ↔ ∃ way marker, HasUnfit json way marker := by
  constructor
  · rintro ⟨fault, failed⟩
    obtain ⟨way, inner, visited, wrong, -⟩ := exists_firstFault (eq_error_iff.mp failed)
    obtain ⟨payload, rfl, unfit⟩ := ownFault?_eq_some wrong
    exact ⟨way, fault.marker, payload, visited, unfit⟩
  · rintro ⟨way, marker, payload, visited, unfit⟩
    cases outcome : faultIn (decode json) with
    | some fault => exact ⟨fault, eq_error_iff.mpr outcome⟩
    | none =>
      have wrong := isSome_ownFault?_marked unfit
      rw [ownFault?_of_visited visited outcome] at wrong
      cases wrong

/-- The fault names the marker that stands before all others that do not fit. -/
theorem first_of_decode_eq_error {json : Json} {fault : MarkerFault}
    (failed : decode json = .error fault) :
    ∃ way, HasUnfit json way fault.marker ∧
      ∀ way' < way, ∀ marker, ¬HasUnfit json way' marker := by
  obtain ⟨way, inner, visited, wrong, first⟩ := exists_firstFault (eq_error_iff.mp failed)
  obtain ⟨payload, rfl, unfit⟩ := ownFault?_eq_some wrong
  refine ⟨way, ⟨payload, visited, unfit⟩, ?_⟩
  rintro way' earlier marker ⟨payload', visited', unfit'⟩
  have wrong' := isSome_ownFault?_marked unfit'
  rw [first visited' earlier] at wrong'
  cases wrong'

/-! ## Snapshots -/

theorem faultIn_eq_none_iff {ε α : Type} {x : Except ε α} :
    faultIn x = none ↔ ∃ a, x = .ok a := by
  cases x <;> simp [faultIn]

theorem ofJson_eq_error_iff {members : List (String × Json)} {fault : SnapshotFault} :
    ofJson (.object members) = .error fault ↔
      ∃ reason, fault = .invalidMarker reason ∧
        members.findSome? (fun member => faultIn (decode member.2)) = some reason := by
  rw [← faultIn_decodeMembers, ofJson]
  cases decodeMembers members with
  | error reason => simp [Except.mapError, faultIn, eq_comm]
  | ok fields => simp [Except.mapError, faultIn]

/-- Members that can all be read keep their names and their order. -/
theorem decodeMembers_of_ok {members : List (String × Json)}
    (readable : ∀ member ∈ members, ∃ value, decode member.2 = .ok value) :
    ∃ fields : Fields, decodeMembers members = .ok fields ∧
      fields.keys = members.map (·.1) ∧
      List.Forall₂ (fun member value => decode member.2 = .ok value) members fields.values := by
  induction members with
  | nil => exact ⟨[], rfl, rfl, .nil⟩
  | cons member rest ih =>
    obtain ⟨⟨value, first⟩, others⟩ := List.forall_mem_cons.mp readable
    obtain ⟨fields, read, names, values⟩ := ih others
    refine ⟨(member.1, value) :: fields, ?_, congrArg (member.1 :: ·) names, .cons first values⟩
    rw [decodeMembers, first, read]
    rfl

/-- **Reading fails exactly at markers that do not fit.** A value cannot be read just if a marker
with a payload that it cannot stand for is visited, and the fault names the first such marker. No
payload of an undefined value or a function that throws makes a difference to that, nor do the flags
of a pattern. A snapshot fails for the first of its members that fails; else it has their values
under their names in their order, whatever the names are. -/
theorem fails_at_first_unfit :
    (∀ json, (∃ fault, decode json = .error fault) ↔ ∃ way marker, HasUnfit json way marker) ∧
    (∀ json fault, decode json = .error fault →
      (∃ reason, fault.message = "Invalid '" ++ fault.marker.key ++ "' value: " ++ reason) ∧
      ∃ way, HasUnfit json way fault.marker ∧
        ∀ way' < way, ∀ marker, ¬HasUnfit json way' marker) ∧
    (∀ payload, decode (marked .undefined payload) = .ok .undefined ∧
      (∃ message, decode (marked .throws payload) = .ok (.constantFunction (.throws message))) ∧
      ∀ source, payload.get? "source" = some (.string source) →
        ∃ flags, decode (marked .regex payload) = .ok (.regexp ⟨source, flags⟩)) ∧
    ∀ members : List (String × Json),
      (∀ text, Json.ofText? text = some (.object members) →
        ofText text = ofJson (.object members)) ∧
      (∀ fault, ofJson (.object members) = .error fault ↔
        ∃ reason before name member after, fault = .invalidMarker reason ∧
          members = before ++ (name, member) :: after ∧ decode member = .error reason ∧
          ∀ earlier ∈ before, ∃ value, decode earlier.2 = .ok value) ∧
      ((∀ member ∈ members, ∃ value, decode member.2 = .ok value) →
        ∃ fields : Fields, ofJson (.object members) = .ok fields ∧
          fields.keys = members.map (·.1) ∧
          List.Forall₂ (fun member value => decode member.2 = .ok value) members
            fields.values) := by
  refine ⟨decode_eq_error_iff, fun json fault failed => ?_, fun payload => ?_, fun members => ?_⟩
  · exact ⟨⟨fault.reason, rfl⟩, first_of_decode_eq_error failed⟩
  · refine ⟨decode_marked .undefined payload, ⟨_, decode_marked .throws payload⟩, ?_⟩
    intro source found
    rw [decode_marked, decodeRegex, found]
    exact ⟨_, rfl⟩
  · refine ⟨fun text read => by rw [ofText, read], fun fault => ?_, fun readable => ?_⟩
    · simp only [ofJson_eq_error_iff, List.findSome?_eq_some_iff, ← eq_error_iff,
        faultIn_eq_none_iff]
      constructor
      · rintro ⟨reason, rfl, before, ⟨name, member⟩, after, split, failed, earlier⟩
        exact ⟨reason, before, name, member, after, rfl, split, failed, earlier⟩
      · rintro ⟨reason, before, name, member, after, rfl, split, failed, earlier⟩
        exact ⟨reason, rfl, before, (name, member), after, split, failed, earlier⟩
    · obtain ⟨fields, read, names, values⟩ := decodeMembers_of_ok readable
      exact ⟨fields, by rw [ofJson, read]; rfl, names, values⟩

/-- An object of two members that is no marker, a payload that is never read, and a bad date in what
a function returns, before a bad integer. -/
def badDateFirst : Json :=
  .object [("$bigint", .string "twelve"),
    ("list", .array [marked .undefined (marked .bigint .null),
      marked .function (marked .date (.string "yesterday")), marked .bigint (.int 7)])]

theorem fails_at_first_unfit_in_function :
    (HasUnfit badDateFirst [1, 1, 0] .date ∧ HasUnfit badDateFirst [1, 2] .bigint) ∧
      ∃ fault, decode badDateFirst = .error fault ∧ fault.marker = .date := by
  have date : HasUnfit badDateFirst [1, 1, 0] .date := by
    refine ⟨.string "yesterday", ?_, .date ?_⟩
    · exact .inside (.member rfl rfl) (.inside (.element rfl) (.inside (.answer _) (.here _)))
    · rintro _ date ⟨⟩ read
      cases read
  have bigint : HasUnfit badDateFirst [1, 2] .bigint := by
    refine ⟨.int 7, .inside (.member rfl rfl) (.inside (.element rfl) (.here _)), .bigint ?_⟩
    rintro _ ⟨⟩
  obtain ⟨fault, failed⟩ := (fails_at_first_unfit.1 badDateFirst).mpr ⟨_, _, date⟩
  have known : decode badDateFirst = .error (.dateInvalid "yesterday" .tooShort) := rfl
  obtain rfl : MarkerFault.dateInvalid "yesterday" .tooShort = fault :=
    Except.error.inj (known.symm.trans failed)
  exact ⟨⟨date, bigint⟩, _, failed, rfl⟩

end Snapshot
end SchemaSource
