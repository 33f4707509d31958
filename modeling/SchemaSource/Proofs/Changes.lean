import SchemaSource.Proofs.Places
/-!
What writing a file and creating folders change. A file that is written is the only thing that
changes; folders are created where nothing stood, on the way that their path spells.
-/
namespace SchemaSource

namespace Tree

/-! ## Entries -/

theorem child?_setEntry (name other : String) (tree : Tree) (entries : Entries) :
    (Tree.folder (setEntry name tree entries)).child? other =
      if other = name then some tree else (Tree.folder entries).child? other := by
  unfold child?
  induction entries with
  | nil =>
    by_cases same : other = name
    · simp [setEntry, same]
    · simp [setEntry, same, Ne.symm same]
  | cons entry rest ih =>
    unfold setEntry
    by_cases here : entry.1 = name
    · rw [if_pos here]
      by_cases same : other = name
      · simp [same]
      · simp [same, here, Ne.symm same]
    · rw [if_neg here]
      by_cases first : entry.1 = other
      · have apart : other ≠ name := fun same => here (first.trans same)
        simp [first, apart]
      · simp only [List.find?_cons, beq_false_of_ne first] at ih ⊢
        exact ih

theorem child?_changed (change : Tree → Tree) (name other : String) (entries : Entries) :
    (Tree.folder (entries.map fun entry =>
      if entry.1 = name then (name, change entry.2) else entry)).child? other =
      if other = name then ((Tree.folder entries).child? other).map change
      else (Tree.folder entries).child? other := by
  unfold child?
  induction entries with
  | nil => simp
  | cons entry rest ih =>
    by_cases here : entry.1 = name
    · by_cases same : other = name
      · simp [here, same]
      · simp only [List.map_cons, here, ↓reduceIte, List.find?_cons,
          beq_false_of_ne (Ne.symm same)] at ih ⊢
        exact ih
    · by_cases first : entry.1 = other
      · have apart : other ≠ name := fun same => here (first.trans same)
        simp [first, apart]
      · simp only [List.map_cons, if_neg here, List.find?_cons, beq_false_of_ne first] at ih ⊢
        exact ih

theorem look_cons (root : Tree) (name : String) (rest : List String) :
    root.look (name :: rest) = (root.child? name).bind (·.look rest) := by
  unfold look
  rw [at?]
  cases root.child? name <;> rfl

/-- Nothing stands below a leaf. -/
def IsLeaf (tree : Tree) : Prop := ∀ name, tree.child? name = none

theorem isLeaf_file (content : Content) : (Tree.file content).IsLeaf := fun _ => rfl

theorem isLeaf_empty : empty.IsLeaf := fun _ => rfl

/-- Putting a leaf where no folder stands changes what stands there, and nothing else. -/
theorem look_changeFolder {root tree : Tree} {folder : List String} {name : String}
    (inFolder : root.look folder = some .folder) (leaf : tree.IsLeaf)
    (free : root.look (folder ++ [name]) ≠ some .folder) (way : List String) :
    (changeFolder (setEntry name tree) folder root).look way =
      if way = folder ++ [name] then some tree.node else root.look way := by
  induction folder generalizing root way with
  | nil =>
    obtain ⟨entries, rfl⟩ := node_eq_folder (Option.some.inj inFolder)
    cases way with
    | nil => rfl
    | cons first rest =>
      rw [changeFolder, look_cons, child?_setEntry, look_cons]
      by_cases same : first = name
      · subst same
        rw [if_pos rfl]
        cases rest with
        | nil => simp [look, at?]
        | cons second rest =>
          -- Below a leaf there is nothing, and below what stood there was nothing either.
          have below : (Option.some tree).bind (·.look (second :: rest)) = none := by
            rw [Option.bind_some, look_cons, leaf second]
            rfl
          rw [below, if_neg (by simp)]
          cases found : (Tree.folder entries).child? first with
          | none => rfl
          | some old =>
            rw [List.nil_append, look_cons, found] at free
            cases old with
            | folder others => exact absurd rfl free
            | file content => rfl
      · rw [if_neg same, if_neg (by simp [same])]
  | cons outer inner ih =>
    rw [look_cons] at inFolder
    obtain ⟨sub, child, deeper⟩ := Option.bind_eq_some_iff.mp inFolder
    cases root with
    | file content => cases child
    | folder entries =>
      cases way with
      | nil => rfl
      | cons first rest =>
        rw [changeFolder, look_cons, child?_changed, look_cons]
        by_cases same : first = outer
        · subst same
          rw [List.cons_append, look_cons, child, Option.bind_some] at free
          rw [if_pos rfl, child, Option.map_some, Option.bind_some, Option.bind_some,
            ih deeper free]
          simp
        · rw [if_neg same, if_neg (by simp [same])]

/-! ## Writing -/

/-- After something was put at a way, all else is as before. -/
def PutAt (before after : Tree) (way : List String) (node : Node) : Prop :=
  ∀ other, after.look other = if other = way then some node else before.look other

theorem PutAt.here {before after : Tree} {way : List String} {node : Node}
    (put : PutAt before after way node) : after.look way = some node := by
  rw [put, if_pos rfl]

theorem PutAt.elsewhere {before after : Tree} {way other : List String} {node : Node}
    (put : PutAt before after way node) (apart : other ≠ way) :
    after.look other = before.look other := by
  rw [put, if_neg apart]

/-- A file is written in a place of its own, which no folder held. -/
theorem write_eq_ok {root after : Tree} {path : String} {content : Content} (rooted : Rooted root)
    (written : root.write path content = .ok after) :
    PutAt root after (Path.way path) (.file content) ∧ root.look (Path.way path) ≠ some .folder ∧
      ∃ place, root.place path = .ok place ∧ place.IsShort ∧ place.asFolder = false ∧
        place.way = Path.way path := by
  unfold write at written
  obtain ⟨place, led, written⟩ := bind_eq_ok_iff.mp written
  obtain ⟨way, inFolder⟩ := place_spec rooted led
  split at written
  · cases written
  · cases written
  · next name named fits =>
    obtain ⟨found?, here, written⟩ := bind_eq_ok_iff.mp written
    obtain ⟨short, stands⟩ := atPlace_eq_ok_iff.mp here
    have whole : place.folder ++ [name] = Path.way path := by
      rw [← way, Place.way, named]
      rfl
    split at written
    · cases written
    · next none =>
      cases written
      have free : root.look (Path.way path) ≠ some .folder := by
        intro folder
        rw [look, ← way, stands, Option.map_eq_some_iff] at folder
        obtain ⟨tree, rfl, node⟩ := folder
        obtain ⟨entries, rfl⟩ := node_eq_folder node
        exact none entries rfl
      refine ⟨fun other => ?_, free, place, led, short, fits, way⟩
      rw [look_changeFolder inFolder (isLeaf_file content) (whole ▸ free), whole]
      rfl

/-! ## Creating folders -/

/-- A folder is created where nothing stood. -/
theorem createFolder_eq_ok {root after : Tree} {path : String} (rooted : Rooted root)
    (created : root.createFolder path = .ok after) :
    PutAt root after (Path.way path) .folder ∧ root.look (Path.way path) = none := by
  unfold createFolder at created
  obtain ⟨place, led, created⟩ := bind_eq_ok_iff.mp created
  obtain ⟨way, inFolder⟩ := place_spec rooted led
  obtain ⟨found?, here, created⟩ := bind_eq_ok_iff.mp created
  obtain ⟨-, stands⟩ := atPlace_eq_ok_iff.mp here
  split at created
  · next name named =>
    cases created
    have whole : place.folder ++ [name] = Path.way path := by
      rw [← way, Place.way, named]
      rfl
    have nothing : root.look (Path.way path) = none := by
      rw [look, ← way, stands]
      rfl
    refine ⟨fun other => ?_, nothing⟩
    rw [look_changeFolder inFolder isLeaf_empty (by simp [whole, nothing]), whole]
    rfl
  · cases created

/-- All that changed is that folders stand at some ways where nothing stood. -/
def Grows (before after : Tree) (ways : List (List String)) : Prop :=
  ∀ way, after.look way = before.look way ∨
    before.look way = none ∧ after.look way = some .folder ∧ way ∈ ways

theorem Grows.refl (root : Tree) (ways : List (List String)) : Grows root root ways :=
  fun _ => .inl rfl

theorem Grows.trans {first second third : Tree} {ways : List (List String)}
    (h : Grows first second ways) (h' : Grows second third ways) : Grows first third ways := by
  intro way
  rcases h' way with same | ⟨nothing, folder, passed⟩
  · rw [same]
    exact h way
  · rcases h way with before | ⟨-, taken, -⟩
    · exact .inr ⟨before ▸ nothing, folder, passed⟩
    · rw [taken] at nothing
      cases nothing

theorem Grows.mono {before after : Tree} {ways ways' : List (List String)}
    (h : Grows before after ways) (sub : ∀ way ∈ ways, way ∈ ways') : Grows before after ways' := by
  intro way
  rcases h way with same | ⟨nothing, folder, passed⟩
  · exact .inl same
  · exact .inr ⟨nothing, folder, sub way passed⟩

/-- What stood somewhere still stands there. -/
theorem Grows.stays {before after : Tree} {ways : List (List String)}
    (h : Grows before after ways) {way : List String} {node : Node}
    (here : before.look way = some node) : after.look way = some node := by
  rcases h way with same | ⟨nothing, -⟩
  · exact same.trans here
  · rw [nothing] at here
    cases here

theorem Grows.rooted {before after : Tree} {ways : List (List String)}
    (h : Grows before after ways) (rooted : Rooted before) : Rooted after := h.stays rooted

end Tree

namespace Path

theorem trimEnd_suffix (pieces : List String) : trimEnd pieces <:+ pieces := by
  fun_induction trimEnd pieces with
  | case1 => exact List.suffix_refl _
  | case2 => exact List.suffix_refl _
  | case3 last rest _ _ ih => exact ih.trans (List.suffix_cons last rest)
  | case4 => exact List.suffix_refl _

/-- The path to a folder is the start of a path into it. -/
theorem parentPieces?_suffix {pieces parent : List String}
    (found : parentPieces? pieces = some parent) : parent <:+ pieces := by
  have outer := trimEnd_suffix pieces
  unfold parentPieces? at found
  split at found
  · cases found
  · split at found
    · cases found
    · cases found
      exact List.nil_suffix
  · next last rest _ trimmed =>
    cases found
    rw [trimmed] at outer
    exact (trimEnd_suffix rest).trans ((List.suffix_cons last rest).trans outer)

/-- The pieces that are spelled out are read again. Only the lone empty piece, which stands for the
root, is read as two, and they lead nowhere either. -/
theorem pieces_ofReversed {pieces : List String} (each : ∀ piece ∈ pieces, IsPiece piece) :
    Path.pieces (ofReversed pieces) = pieces.reverse ∨
      ∀ piece ∈ Path.pieces (ofReversed pieces), piece = "" := by
  unfold ofReversed
  split
  · exact .inr (by decide)
  · cases pieces with
    | nil => exact .inr (by decide)
    | cons last rest =>
      refine .inl (pieces_intercalate ?_ (by simp))
      intro piece member
      exact each piece (List.mem_reverse.mp member)

theorem stopsOf_subset_of_prefix {pieces pieces' : List String} (start : pieces <+: pieces') :
    ∀ way ∈ stopsOf pieces, way ∈ stopsOf pieces' := by
  intro way member
  obtain ⟨inner, inside, rfl⟩ := mem_stopsOf.mp member
  exact mem_stopsOf.mpr ⟨inner, inside.trans start, rfl⟩

/-- A path that spells out some pieces passes no other ways than they do. -/
theorem stops_ofReversed {pieces : List String} (each : ∀ piece ∈ pieces, IsPiece piece) :
    ∀ way ∈ stops (ofReversed pieces), way ∈ stopsOf pieces.reverse := by
  intro way member
  unfold stops at member
  rcases pieces_ofReversed each with same | empty
  · rw [same] at member
    exact member
  · obtain ⟨start, inside, rfl⟩ := mem_stopsOf.mp member
    have nowhere : wayOf start = [] :=
      foldl_follow_of_empty (fun piece member => empty piece (inside.subset member)) []
    exact mem_stopsOf.mpr ⟨[], List.nil_prefix, nowhere.symm⟩

end Path

namespace Tree

theorem createFolder_grows {root after : Tree} {path : String} (rooted : Rooted root)
    (created : root.createFolder path = .ok after) : Grows root after (Path.stops path) := by
  obtain ⟨put, nothing⟩ := createFolder_eq_ok rooted created
  intro way
  by_cases here : way = Path.way path
  · subst here
    exact .inr ⟨nothing, put.here, Path.way_mem_stops path⟩
  · exact .inl (put.elsewhere here)

theorem createFolder_grows_of_pieces {root after : Tree} {pieces : List String}
    (each : ∀ piece ∈ pieces, Path.IsPiece piece) (rooted : Rooted root)
    (created : root.createFolder (Path.ofReversed pieces) = .ok after) :
    Grows root after (Path.stopsOf pieces.reverse) :=
  (createFolder_grows rooted created).mono (Path.stops_ofReversed each)

/-- Creating a folder, with those on the way to it, only adds folders on that way. This holds
whether or not it works out. -/
theorem createFolders_grows {root : Tree} {pieces : List String}
    (each : ∀ piece ∈ pieces, Path.IsPiece piece) (rooted : Rooted root) :
    Grows root (root.createFolders pieces).1 (Path.stopsOf pieces.reverse) := by
  -- The ways to an outer folder are among the ways to the folder itself.
  have outer {pieces parent : List String} {root after : Tree}
      (higher : Path.parentPieces? pieces = some parent)
      (grows : Grows root after (Path.stopsOf parent.reverse)) :
      Grows root after (Path.stopsOf pieces.reverse) := by
    have suffix := Path.parentPieces?_suffix higher
    exact grows.mono (Path.stopsOf_subset_of_prefix (List.reverse_prefix.mpr suffix))
  fun_induction createFolders root pieces with
  | case1 => exact .refl _ _
  | case2 pieces path written after created =>
    exact createFolder_grows_of_pieces each rooted created
  | case3 => exact .refl _ _
  | case4 pieces path written missing parent higher after fault worked ih =>
    have inside := Path.parentPieces?_suffix higher
    have grows := ih fun piece member => each piece (inside.subset member)
    rw [worked] at grows
    exact outer higher grows
  | case5 pieces path written missing parent higher middle done worked after created ih =>
    have inside := Path.parentPieces?_suffix higher
    have grows := ih fun piece member => each piece (inside.subset member)
    rw [worked] at grows
    exact (outer higher grows).trans
      (createFolder_grows_of_pieces each (grows.rooted rooted) created)
  | case6 pieces path settle written missing parent higher middle done worked fault failed ih =>
    have inside := Path.parentPieces?_suffix higher
    have grows := ih fun piece member => each piece (inside.subset member)
    rw [worked] at grows
    exact outer higher grows
  | case7 => exact .refl _ _

/-- Creating the folder of a path only adds folders on the way of the path. -/
theorem createPath_grows {root : Tree} {path parent : String}
    (higher : Path.parent? path = some parent) (rooted : Rooted root) :
    Grows root (root.createPath parent).1 (Path.stops path) := by
  obtain ⟨pieces, found, rfl⟩ := Option.map_eq_some_iff.mp higher
  have each : ∀ piece ∈ pieces, Path.IsPiece piece := by
    intro piece member
    have inside := (Path.parentPieces?_suffix found).subset member
    exact Path.isPiece_of_mem (List.mem_reverse.mp inside)
  have grows : Grows root (root.createPath (Path.ofReversed pieces)).1
      (Path.stops (Path.ofReversed pieces)) := by
    have spelled : ∀ piece ∈ (Path.pieces (Path.ofReversed pieces)).reverse, Path.IsPiece piece :=
      fun piece member => Path.isPiece_of_mem (List.mem_reverse.mp member)
    have grows := createFolders_grows spelled rooted
    rw [List.reverse_reverse] at grows
    exact grows
  refine (grows.mono (Path.stops_ofReversed each)).mono ?_
  have suffix := List.reverse_prefix.mpr (Path.parentPieces?_suffix found)
  rw [List.reverse_reverse] at suffix
  exact Path.stopsOf_subset_of_prefix suffix

/-! ## Storing a text -/

/-- A text was stored at a path: it is read there, every text that stands elsewhere is read as
before, and off the way of the path nothing changed. -/
structure Stored (before after : Tree) (path text : String) : Prop where
  reads : after.read path = .ok text
  others : ∀ other content, before.read other = .ok content → Path.way other ≠ Path.way path →
    after.read other = .ok content
  aside : ∀ way, way ∉ Path.stops path → after.look way = before.look way

theorem Stored.of_read {files : Tree} {path text : String} (reads : files.read path = .ok text) :
    Stored files files path text where
  reads := reads
  others _ _ here _ := here
  aside _ _ := rfl

/-- A file that is written, perhaps after folders were added on its way, stores its text. -/
theorem Stored.of_write {before middle after : Tree} {path text : String} (rooted : Rooted before)
    (grows : Grows before middle (Path.stops path))
    (written : middle.write path (.text text) = .ok after) : Stored before after path text := by
  obtain ⟨put, free, place, led, short, fits, way⟩ := write_eq_ok (grows.rooted rooted) written
  have keeps : KeepsFolders middle after := by
    intro other folder
    have apart : other ≠ Path.way path := fun same => free (same ▸ folder)
    exact (put.elsewhere apart).trans folder
  refine ⟨?_, ?_, ?_⟩
  · exact read_eq_ok_iff.mpr ⟨place, place_of_keepsFolders keeps led, short, fits, way ▸ put.here⟩
  · intro other content reads apart
    obtain ⟨place, led, short, fits, here⟩ := read_eq_ok_iff.mp reads
    have same := (place_spec rooted led).1
    have kept : KeepsFolders before after := fun way folder => keeps way (grows.stays folder)
    refine read_eq_ok_iff.mpr ⟨place, place_of_keepsFolders kept led, short, fits, ?_⟩
    rw [put.elsewhere (same ▸ apart)]
    exact grows.stays here
  · intro other aside
    have apart : other ≠ Path.way path := fun same => aside (same ▸ Path.way_mem_stops path)
    rw [put.elsewhere apart]
    rcases grows other with same | ⟨-, -, passed⟩
    · exact same
    · exact absurd passed aside

end Tree
end SchemaSource
