import Mathlib.Data.List.Dedup
import SchemaSource.Proofs.ByteOrder
import SchemaSource.Proofs.Rendering
/-!
What a registry holds after some registrations. The handlers of all kinds are there from the start;
a registration adds its tag or takes the place of the handler that the tag had, and nothing else
changes. Names tell tags apart as long as each is used for the tag that it stands for.
-/
namespace SchemaSource

/-- Every kind is in the list of kinds. -/
theorem Kind.mem_all (kind : Kind) : kind ∈ all := by
  cases kind <;> decide

/-! ## Tags and names -/

namespace Tag

variable {tag other : Tag}

theorem name_ofName (name : String) : (ofName name).name = name := by
  unfold ofName
  cases found : Kind.ofTag? name with
  | none => rfl
  | some kind =>
    have named : kind.tag = name := by simpa using List.find?_some found
    exact named

theorem ofName_injective : Function.Injective ofName :=
  Function.LeftInverse.injective name_ofName

/-- The tag is the one that its name stands for. -/
def IsNamed (tag : Tag) : Prop := ofName tag.name = tag

instance (tag : Tag) : Decidable tag.IsNamed := inferInstanceAs (Decidable (ofName _ = _))

theorem isNamed_ofName (name : String) : (ofName name).IsNamed := congrArg ofName (name_ofName name)

theorem isNamed_builtin (kind : Kind) : (builtin kind).IsNamed := by
  rw [IsNamed, name, ofName, Kind.ofTag?_tag]

theorem IsNamed.eq_of_name_eq (named : tag.IsNamed) (named' : other.IsNamed)
    (same : tag.name = other.name) : tag = other := by
  rw [← named, ← named', same]

/-- A name goes astray just where it is that of a kind and is given to another tag. -/
theorem not_isNamed_iff : ¬tag.IsNamed ↔ ∃ kind : Kind, tag = .other kind.tag := by
  constructor
  · intro misnamed
    cases tag with
    | builtin kind => exact absurd (isNamed_builtin kind) misnamed
    | other name =>
      cases found : Kind.ofTag? name with
      | none =>
        refine absurd ?_ misnamed
        rw [IsNamed, Tag.name, ofName, found]
      | some kind =>
        have named : kind.tag = name := by simpa using List.find?_some found
        exact ⟨kind, named ▸ rfl⟩
  · rintro ⟨kind, rfl⟩ named
    have same := (isNamed_builtin kind).eq_of_name_eq named rfl
    cases same

end Tag

namespace Registry

/-! ## One registration -/

section Insert

variable (registry : Registry) (tag : Tag) (handler : Handler)

theorem contains_iff {registry : Registry} {tag : Tag} :
    registry.contains tag = true ↔ tag ∈ registry.tags := by
  rw [contains, List.contains_iff_mem]

theorem tags_insert :
    (registry.insert tag handler).tags =
      if registry.contains tag then registry.tags else registry.tags ++ [tag] := by
  unfold insert
  split
  · rw [tags, tags, List.map_map]
    refine List.map_congr_left fun entry _ => ?_
    by_cases same : entry.1 = tag <;> simp [same]
  · rw [tags, List.map_append]
    rfl

theorem mem_tags_insert {other : Tag} :
    other ∈ (registry.insert tag handler).tags ↔ other = tag ∨ other ∈ registry.tags := by
  rw [tags_insert]
  split
  · next present =>
    have member := contains_iff.mp present
    exact ⟨.inr, fun either => either.elim (fun same => same ▸ member) id⟩
  · rw [List.mem_append, List.mem_singleton, or_comm]

theorem nodup_tags_insert (distinct : registry.tags.Nodup) :
    (registry.insert tag handler).tags.Nodup := by
  rw [tags_insert]
  split
  · exact distinct
  · next absent =>
    rw [contains_iff] at absent
    exact List.nodup_append.mpr ⟨distinct, List.nodup_singleton tag, by
      rintro a member b single rfl
      exact absent (List.mem_singleton.mp single ▸ member)⟩

theorem get?_insert (other : Tag) :
    (registry.insert tag handler).get? other =
      if other = tag then some handler else registry.get? other := by
  unfold insert get?
  split
  · next present =>
    have kept : ((·.1 == other) ∘ fun entry : Tag × Handler =>
        if entry.1 = tag then (tag, handler) else entry) = (·.1 == other) := by
      funext entry
      by_cases same : entry.1 = tag <;> simp [same]
    rw [List.find?_map, kept, Option.map_map]
    cases found : registry.entries.find? (·.1 == other) with
    | none =>
      have other_ne : other ≠ tag := by
        rintro rfl
        obtain ⟨entry, member, same⟩ := List.mem_map.mp (contains_iff.mp present)
        exact absurd (List.find?_eq_none.mp found entry member) (by simp [same])
      rw [if_neg other_ne]
      rfl
    | some entry =>
      have named : entry.1 = other := by simpa using List.find?_some found
      by_cases same : other = tag <;> simp [named, same]
  · next absent =>
    rw [List.find?_append]
    by_cases same : other = tag
    · have missing : registry.entries.find? (·.1 == other) = none := by
        refine List.find?_eq_none.mpr fun entry member named => absent (contains_iff.mpr ?_)
        exact List.mem_map.mpr ⟨entry, member, by simpa [same] using named⟩
      rw [missing, if_pos same]
      simp [same]
    · simp [same, Ne.symm same]

end Insert

/-! ## Any registrations -/

/-- The registry after some registrations, of which the latest is given first. -/
def extended : List (Tag × Handler) → Registry
  | [] => builtin
  | (tag, handler) :: earlier => (extended earlier).insert tag handler

/-- The tags that were registered beside those of the kinds, each once. -/
def newTags (registrations : List (Tag × Handler)) : List Tag :=
  ((registrations.map (·.1)).filter fun tag => tag.kind?.isNone).dedup

/-- The latest registration of a tag counts, and without one the handler of its kind. -/
def latest? (registrations : List (Tag × Handler)) (tag : Tag) : Option Handler :=
  ((registrations.find? (·.1 == tag)).map (·.2)).or (tag.kind?.map (·.rule.handler))

/-- The tag is that of a kind, or was registered. -/
def Served (registrations : List (Tag × Handler)) (tag : Tag) : Prop :=
  (∃ kind, tag = .builtin kind) ∨ ∃ handler, (tag, handler) ∈ registrations

/-- The names of all tags that are served, each tag once, in the order of their bytes. Two tags have
one name just where one of them was registered under a name that stands for the other. -/
structure Lists (registrations : List (Tag × Handler)) (names : List String) : Prop where
  tags : ∃ tags : List Tag, tags.Nodup ∧ (∀ tag, tag ∈ tags ↔ Served registrations tag) ∧
    names = tags.map Tag.name
  sorted : names.Pairwise fun a b => a = b ∨ Text.bytes a < Text.bytes b
  nodup_iff : names.Nodup ↔ ∀ registration ∈ registrations, registration.1.IsNamed

def describeNames (names : List String) : String :=
  Text.describeRecord "HandlerRegistry"
    [("tags", Text.describeList (names.map Text.describeString))] true

/-- What a registry says and does after some registrations, of which the latest is given first. -/
structure Holds (registry : Registry) (registrations : List (Tag × Handler)) : Prop where
  /-- Only the tags that are of no kind add to the number of tags. -/
  size : registry.size = 39 + (newTags registrations).length
  contains (tag : Tag) : registry.contains tag = true ↔ Served registrations tag
  handler (tag : Tag) : registry.get? tag = latest? registrations tag
  listed : ∃ names, Lists registrations names ∧ registry.describe = describeNames names

section Extended

variable (registrations : List (Tag × Handler))

theorem mem_newTags {tag : Tag} :
    tag ∈ newTags registrations ↔ tag ∈ registrations.map (·.1) ∧ tag.kind? = none := by
  simp [newTags]

theorem nodup_newTags : (newTags registrations).Nodup := List.nodup_dedup _

theorem mem_tags_builtin {tag : Tag} : tag ∈ builtin.tags ↔ tag.kind? ≠ none := by
  rw [tags, builtin, List.map_map]
  cases tag with
  | builtin kind => simp [Tag.kind?, Kind.mem_all]
  | other name => simp [Tag.kind?]

theorem mem_tags_extended {tag : Tag} :
    tag ∈ (extended registrations).tags ↔
      tag.kind? ≠ none ∨ tag ∈ registrations.map (·.1) := by
  induction registrations with
  | nil => simp [extended, mem_tags_builtin]
  | cons registration earlier ih =>
    rw [extended, mem_tags_insert, ih, List.map_cons, List.mem_cons]
    tauto

theorem nodup_tags_builtin : builtin.tags.Nodup := by
  decide

theorem nodup_tags_extended : (extended registrations).tags.Nodup := by
  induction registrations with
  | nil => exact nodup_tags_builtin
  | cons registration earlier ih => exact nodup_tags_insert _ _ _ ih

theorem mem_tags_extended_iff_served {tag : Tag} :
    tag ∈ (extended registrations).tags ↔ Served registrations tag := by
  rw [mem_tags_extended, Served]
  cases tag with
  | builtin kind => simp [Tag.kind?]
  | other name => simp [Tag.kind?]

theorem get?_extended (tag : Tag) :
    (extended registrations).get? tag = latest? registrations tag := by
  induction registrations with
  | nil => exact get?_builtin tag
  | cons registration earlier ih =>
    rw [extended, get?_insert, latest?, List.find?_cons]
    by_cases same : tag = registration.1
    · simp [same]
    · have other : (registration.1 == tag) = false := by simpa using Ne.symm same
      rw [if_neg same, ih, other, latest?]

/-- The tags are those of the kinds and the new ones. -/
theorem tags_extended_perm :
    (extended registrations).tags.Perm (builtin.tags ++ newTags registrations) := by
  have apart : List.Disjoint builtin.tags (newTags registrations) := by
    intro tag kind new
    exact mem_tags_builtin.mp kind ((mem_newTags registrations).mp new).2
  refine (List.perm_ext_iff_of_nodup (nodup_tags_extended registrations)
    (nodup_tags_builtin.append (nodup_newTags registrations) apart)).mpr fun tag => ?_
  rw [mem_tags_extended, List.mem_append, mem_tags_builtin, mem_newTags]
  tauto

theorem size_extended : (extended registrations).size = 39 + (newTags registrations).length := by
  have counted := (tags_extended_perm registrations).length_eq
  rw [List.length_append, tags, List.length_map] at counted
  exact counted

theorem sortedNames_perm (registry : Registry) :
    registry.sortedNames.Perm (registry.tags.map Tag.name) :=
  List.mergeSort_perm _ _

theorem sortedNames_sorted (registry : Registry) :
    registry.sortedNames.Pairwise fun a b => a = b ∨ Text.bytes a < Text.bytes b := by
  have ordered : registry.sortedNames.Pairwise fun a b => decide (a ≤ b) = true :=
    List.pairwise_mergeSort
      (fun a b c first second => by
        rw [decide_eq_true_iff] at first second ⊢
        exact String.le_trans first second)
      (fun a b => by simpa using String.le_total a b) _
  refine ordered.imp fun {a b} below => ?_
  exact (le_iff_eq_or_lt.mp (of_decide_eq_true below)).imp id Text.bytes_lt_of_lt

/-- The names of a registry are those of its tags in some order. -/
theorem exists_sortedNames_eq (registry : Registry) :
    ∃ tags : List Tag, tags.Perm registry.tags ∧ registry.sortedNames = tags.map Tag.name := by
  let tags := registry.tags.mergeSort fun a b => a.name ≤ b.name
  have names : tags.map Tag.name = registry.sortedNames := List.map_mergeSort fun _ _ _ _ => rfl
  exact ⟨tags, List.mergeSort_perm _ _, names.symm⟩

/-- Each name is listed once just where every tag was registered under its own name. -/
theorem nodup_sortedNames_iff : (extended registrations).sortedNames.Nodup ↔
    ∀ registration ∈ registrations, registration.1.IsNamed := by
  rw [(sortedNames_perm _).nodup_iff]
  constructor
  · intro distinct registration member
    by_contra misnamed
    obtain ⟨kind, other⟩ := Tag.not_isNamed_iff.mp misnamed
    have first : .builtin kind ∈ (extended registrations).tags :=
      (mem_tags_extended_iff_served _).mpr (.inl ⟨kind, rfl⟩)
    have second : .other kind.tag ∈ (extended registrations).tags :=
      (mem_tags_extended_iff_served _).mpr (.inr ⟨registration.2, other ▸ member⟩)
    have same := List.inj_on_of_nodup_map distinct first second rfl
    cases same
  · intro named
    have each : ∀ tag ∈ (extended registrations).tags, tag.IsNamed := by
      intro tag member
      rcases (mem_tags_extended_iff_served _).mp member with ⟨kind, rfl⟩ | ⟨handler, registered⟩
      · exact Tag.isNamed_builtin kind
      · exact named _ registered
    exact (nodup_tags_extended registrations).map_on fun tag inside other insideToo same =>
      (each tag inside).eq_of_name_eq (each other insideToo) same

theorem lists_sortedNames : Lists registrations (extended registrations).sortedNames where
  tags := by
    obtain ⟨tags, perm, same⟩ := exists_sortedNames_eq (extended registrations)
    exact ⟨tags, perm.nodup_iff.mpr (nodup_tags_extended registrations),
      fun tag => perm.mem_iff.trans (mem_tags_extended_iff_served registrations), same⟩
  sorted := sortedNames_sorted _
  nodup_iff := nodup_sortedNames_iff registrations

theorem holds_extended : (extended registrations).Holds registrations where
  size := size_extended registrations
  contains _ := contains_iff.trans (mem_tags_extended_iff_served registrations)
  handler := get?_extended registrations
  listed := ⟨_, lists_sortedNames registrations, rfl⟩

end Extended

/-! ## Registrations by name -/

/-- Registrations of the tags that some names stand for. -/
def named (registrations : List (String × Handler)) : List (Tag × Handler) :=
  registrations.map fun registration => (.ofName registration.1, registration.2)

/-- The names that were registered and that no kind has, each once. -/
def newNames (registrations : List (String × Handler)) : List String :=
  ((registrations.map (·.1)).filter fun name => (Kind.ofTag? name).isNone).dedup

/-- What a registry says and does after registrations by name. No name takes the place of two. -/
structure HoldsNames (registry : Registry) (registrations : List (String × Handler)) : Prop where
  size : registry.size = 39 + (newNames registrations).length
  contains (name : String) : registry.contains (.ofName name) = true ↔
    (∃ kind : Kind, kind.tag = name) ∨ ∃ handler, (name, handler) ∈ registrations
  handler (name : String) : registry.get? (.ofName name) =
    ((registrations.find? (·.1 == name)).map (·.2)).or
      ((Kind.ofTag? name).map (·.rule.handler))
  listed : ∃ names : List String,
    (names.Pairwise fun a b => Text.bytes a < Text.bytes b) ∧
    (∀ name, name ∈ names ↔ registry.contains (.ofName name) = true) ∧
    registry.describe = describeNames names

section Named

variable (registrations : List (String × Handler))

theorem newTags_named : newTags (named registrations) = (newNames registrations).map .ofName := by
  unfold newTags newNames named
  rw [← List.dedup_map_of_injective Tag.ofName_injective, List.map_map]
  have names : ((·.1) ∘ fun registration : String × Handler =>
      (Tag.ofName registration.1, registration.2)) = Tag.ofName ∘ (·.1) := rfl
  rw [names, ← List.map_map, List.filter_map]
  congr 3
  funext name
  exact congrArg Option.isNone (Tag.kind?_ofName name)

theorem served_named_iff (name : String) : Served (named registrations) (.ofName name) ↔
    (∃ kind : Kind, kind.tag = name) ∨ ∃ handler, (name, handler) ∈ registrations := by
  refine or_congr ⟨?_, ?_⟩ ⟨?_, ?_⟩
  · rintro ⟨kind, same⟩
    exact ⟨kind, (congrArg Tag.name same).symm.trans (Tag.name_ofName name)⟩
  · rintro ⟨kind, rfl⟩
    exact ⟨kind, Tag.isNamed_builtin kind⟩
  · rintro ⟨handler, member⟩
    obtain ⟨⟨own, served⟩, inside, same⟩ := List.mem_map.mp member
    obtain rfl := Tag.ofName_injective (Prod.mk.inj same).1
    exact ⟨served, inside⟩
  · rintro ⟨handler, member⟩
    exact ⟨handler, List.mem_map.mpr ⟨_, member, rfl⟩⟩

theorem latest?_named (name : String) : latest? (named registrations) (.ofName name) =
    ((registrations.find? (·.1 == name)).map (·.2)).or
      ((Kind.ofTag? name).map (·.rule.handler)) := by
  have test : ((·.1 == Tag.ofName name) ∘ fun registration : String × Handler =>
      (Tag.ofName registration.1, registration.2)) = (·.1 == name) := by
    funext registration
    exact Bool.eq_iff_iff.mpr (by simp [Tag.ofName_injective.eq_iff])
  rw [latest?, named, List.find?_map, test, Option.map_map, Tag.kind?_ofName]
  rfl

theorem Holds.names {registry : Registry} (holds : registry.Holds (named registrations)) :
    registry.HoldsNames registrations where
  size := by rw [holds.size, newTags_named, List.length_map]
  contains name := (holds.contains _).trans (served_named_iff registrations name)
  handler name := (holds.handler _).trans (latest?_named registrations name)
  listed := by
    obtain ⟨names, lists, described⟩ := holds.listed
    have each : ∀ registration ∈ named registrations, registration.1.IsNamed := by
      intro registration member
      obtain ⟨own, -, rfl⟩ := List.mem_map.mp member
      exact Tag.isNamed_ofName own.1
    refine ⟨names, ?_, fun name => ?_, described⟩
    · refine (lists.sorted.and (lists.nodup_iff.mpr each)).imp fun {a b} both => ?_
      exact both.1.resolve_left both.2
    · obtain ⟨tags, -, served, rfl⟩ := lists.tags
      rw [holds.contains, ← served, List.mem_map]
      constructor
      · rintro ⟨tag, inside, rfl⟩
        rcases (served tag).mp inside with ⟨kind, rfl⟩ | ⟨handler, registered⟩
        · exact (Tag.isNamed_builtin kind).symm ▸ inside
        · exact (each _ registered).symm ▸ inside
      · intro inside
        exact ⟨_, inside, Tag.name_ofName name⟩

end Named

/-! ## Names that go astray -/

section Misnamed

variable (registry : Registry) {tag : Tag} (handler : Handler)

/-- No name leads to a handler whose tag is not what its name stands for. -/
theorem get?_insert_misnamed (misnamed : ¬tag.IsNamed) (name : String) :
    (registry.insert tag handler).get? (.ofName name) = registry.get? (.ofName name) := by
  rw [get?_insert, if_neg]
  rintro rfl
  exact misnamed (Tag.isNamed_ofName name)

/-- The name of a kind, given to another tag, is counted and listed a second time, and the handler
serves no schema. -/
theorem insert_misnamed (kind : Kind) :
    let registry := builtin.insert (.other kind.tag) handler
    registry.size = 40 ∧ registry.sortedNames.count kind.tag = 2 ∧
      ∀ name, registry.get? (.ofName name) = builtin.get? (.ofName name) := by
  intro registry
  have misnamed : ¬(Tag.other kind.tag).IsNamed := Tag.not_isNamed_iff.mpr ⟨kind, rfl⟩
  have tags : registry.tags = builtin.tags ++ [.other kind.tag] := by
    rw [tags_insert, if_neg]
    rw [contains_iff, mem_tags_builtin]
    exact fun known => known rfl
  refine ⟨?_, ?_, get?_insert_misnamed builtin handler misnamed⟩
  · rw [size, ← List.length_map (·.1), ← Registry.tags, tags]
    rfl
  · rw [(sortedNames_perm registry).count_eq, tags, List.map_append, List.count_append]
    cases kind <;> rfl

end Misnamed

end Registry

/-- So such a handler is never asked to render anything. -/
theorem Renderer.render_register_misnamed (renderer : Renderer) {tag : Tag} (handler : Handler)
    (misnamed : ¬tag.IsNamed) (options : Options) (node : Value) :
    (renderer.register tag handler).render options node = renderer.render options node :=
  render_eq_of_get? renderer.dialect
    (Registry.get?_insert_misnamed renderer.registry handler misnamed) options node

end SchemaSource
