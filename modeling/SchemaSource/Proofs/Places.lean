import Mathlib.Data.List.Infix
import Mathlib.Data.List.TakeWhile
import SchemaSource.Proofs.Rendering
import SchemaSource.Storage.Tree
/-!
Where paths lead. A path spells a way down from the root, whatever files there are; files only
decide whether the way can be gone. What a tree answers for a path is settled by what stands at the
end of that way, as long as the folders on it stay.
-/
namespace SchemaSource

/-! ## Ways -/

namespace Path

/-- One piece of a path further. Nothing lies above the root. -/
def follow (way : List String) (piece : String) : List String :=
  if piece = "" ∨ piece = "." then way
  else if piece = ".." then way.dropLast
  else way ++ [piece]

/-- The way down that some pieces spell. -/
def wayOf (pieces : List String) : List String := pieces.foldl follow []

/-- The way down that a path spells. -/
def way (path : String) : List String := wayOf (pieces path)

/-- All ways down that some pieces pass, from where they start to where they end. -/
def stopsOf (pieces : List String) : List (List String) := pieces.inits.map wayOf

/-- All ways down that a path passes. -/
def stops (path : String) : List (List String) := stopsOf (pieces path)

theorem mem_stopsOf {pieces way : List String} :
    way ∈ stopsOf pieces ↔ ∃ start, start <+: pieces ∧ wayOf start = way := by
  simp only [stopsOf, List.mem_map, List.mem_inits]

theorem way_mem_stops (path : String) : way path ∈ stops path :=
  mem_stopsOf.mpr ⟨_, List.prefix_refl _, rfl⟩

theorem follow_empty (way : List String) : follow way "" = way := if_pos (.inl rfl)

theorem foldl_follow_of_empty {pieces : List String} (empty : ∀ piece ∈ pieces, piece = "")
    (way : List String) : pieces.foldl follow way = way := by
  induction pieces with
  | nil => rfl
  | cons piece rest ih =>
    have here := empty piece List.mem_cons_self
    rw [List.foldl_cons, here, follow_empty,
      ih fun other member => empty other (List.mem_cons_of_mem _ member)]

/-! ### Pieces between slashes -/

theorem split_of_no_slash {piece : List Char} (bare : '/' ∉ piece) : split piece = [piece] := by
  induction piece with
  | nil => rfl
  | cons c rest ih =>
    have first : c ≠ '/' := fun same => bare (same ▸ List.mem_cons_self)
    have later : '/' ∉ rest := fun member => bare (List.mem_cons_of_mem _ member)
    rw [split, if_neg first, ih later]

theorem split_append_slash {piece : List Char} (bare : '/' ∉ piece) (rest : List Char) :
    split (piece ++ '/' :: rest) = piece :: split rest := by
  induction piece with
  | nil => rfl
  | cons c others ih =>
    have first : c ≠ '/' := fun same => bare (same ▸ List.mem_cons_self)
    have later : '/' ∉ others := fun member => bare (List.mem_cons_of_mem _ member)
    rw [List.cons_append, split, if_neg first, ih later]

theorem no_slash_of_mem_split {text piece : List Char} (member : piece ∈ split text) :
    '/' ∉ piece := by
  induction text generalizing piece with
  | nil =>
    obtain rfl := List.mem_singleton.mp member
    exact List.not_mem_nil
  | cons c rest ih =>
    unfold split at member
    split at member
    · rcases List.mem_cons.mp member with rfl | later
      · exact List.not_mem_nil
      · exact ih later
    · next other =>
      split at member
      · obtain rfl := List.mem_singleton.mp member
        simpa using Ne.symm other
      · next first others found =>
        rw [found] at ih
        rcases List.mem_cons.mp member with rfl | later
        · rintro (_ | ⟨_, here⟩)
          · exact other rfl
          · exact ih List.mem_cons_self here
        · exact ih (List.mem_cons_of_mem _ later)

/-- A piece is what can stand between slashes. -/
def IsPiece (piece : String) : Prop := '/' ∉ piece.toList

theorem isPiece_of_mem {path piece : String} (member : piece ∈ pieces path) : IsPiece piece := by
  obtain ⟨chars, inside, rfl⟩ := List.mem_map.mp member
  rw [IsPiece, String.toList_ofList]
  exact no_slash_of_mem_split inside

theorem pieces_intercalate {list : List String} (each : ∀ piece ∈ list, IsPiece piece)
    (some : list ≠ []) : pieces ("/".intercalate list) = list := by
  unfold pieces
  rw [String.toList_intercalate]
  induction list with
  | nil => exact absurd rfl some
  | cons piece rest ih =>
    have here := each piece List.mem_cons_self
    cases rest with
    | nil => simp [split_of_no_slash here]
    | cons next rest =>
      have later := ih (fun other member => each other (List.mem_cons_of_mem _ member))
        (List.cons_ne_nil _ _)
      rw [List.map_cons, List.map_cons, List.intercalate_cons_cons]
      have slash : "/".toList = ['/'] := rfl
      rw [slash, List.append_assoc, List.singleton_append, split_append_slash here,
        List.map_cons, String.ofList_toList]
      rw [List.map_cons, slash] at later
      rw [later]

end Path

/-! ## What stands where -/

namespace Tree

/-- What stands somewhere, without what a folder holds. -/
inductive Node where
  | folder
  | file (content : Content)
  deriving DecidableEq

def node : Tree → Node
  | .folder _ => .folder
  | .file content => .file content

/-- What stands at the end of a way down. -/
def look (root : Tree) (way : List String) : Option Node := (root.at? way).map node

/-- The root is a folder, as it is on every system. -/
abbrev Rooted (root : Tree) : Prop := root.look [] = some .folder

theorem at?_append (root : Tree) (way : List String) (name : String) :
    root.at? (way ++ [name]) = (root.at? way).bind (·.child? name) := by
  induction way generalizing root with
  | nil =>
    simp only [List.nil_append, at?, Option.bind_some]
    cases root.child? name <;> rfl
  | cons first rest ih =>
    rw [List.cons_append, at?, at?]
    cases root.child? first with
    | none => rfl
    | some tree => exact ih tree

theorem node_eq_folder {tree : Tree} (folder : tree.node = .folder) :
    ∃ entries, tree = .folder entries := by
  cases tree with
  | folder entries => exact ⟨entries, rfl⟩
  | file content => cases folder

/-! ### Trails -/

/-- The folders of a trail stand one in the other. -/
def Trail.Leads (root : Tree) : Trail → Prop
  | [] => True
  | (name, tree) :: rest =>
    (Trail.last root rest).child? name = some tree ∧ tree.node = .folder ∧ Trail.Leads root rest

namespace Trail

variable {root : Tree} {trail : Trail}

theorem Leads.nil (root : Tree) : Leads root [] := .intro

theorem names_cons (name : String) (tree : Tree) (trail : Trail) :
    names ((name, tree) :: trail) = trail.names ++ [name] := by
  simp [names]

theorem names_tail (trail : Trail) : names trail.tail = trail.names.dropLast := by
  simp [names, List.map_tail, List.dropLast_reverse]

theorem Leads.tail (leads : Leads root trail) : Leads root trail.tail := by
  cases trail with
  | nil => exact leads
  | cons step rest => exact leads.2.2

theorem Leads.at? (leads : Leads root trail) : root.at? trail.names = some (trail.last root) := by
  induction trail with
  | nil => rfl
  | cons step rest ih =>
    obtain ⟨name, tree⟩ := step
    obtain ⟨child, -, leads⟩ := leads
    rw [names_cons, at?_append, ih leads]
    exact child

theorem Leads.look_names (leads : Leads root trail) (rooted : Rooted root) :
    root.look trail.names = some .folder := by
  cases trail with
  | nil => exact rooted
  | cons step rest =>
    rw [look, leads.at?, Option.map_some]
    exact congrArg some leads.2.1

theorem Leads.look_child (leads : Leads root trail) (name : String) :
    root.look (trail.names ++ [name]) = ((trail.last root).child? name).map node := by
  rw [look, at?_append, leads.at?, Option.bind_some]

end Trail

/-- A walk goes the way that the pieces spell, from folder to folder. -/
theorem walk_leads {root : Tree} {pieces : List String} {trail final : Trail}
    (leads : trail.Leads root) (walked : walk root trail pieces = .ok final) :
    final.Leads root ∧ final.names = pieces.foldl Path.follow trail.names := by
  induction pieces generalizing trail with
  | nil =>
    cases walked
    exact ⟨leads, rfl⟩
  | cons piece rest ih =>
    unfold walk at walked
    rw [List.foldl_cons, Path.follow]
    split at walked
    · next nowhere =>
      rw [if_pos nowhere]
      exact ih leads walked
    · next somewhere =>
      rw [if_neg somewhere]
      split at walked
      · next up =>
        rw [if_pos up, ← Trail.names_tail]
        exact ih leads.tail walked
      · next down =>
        rw [if_neg down]
        split at walked
        · cases walked
        · split at walked
          · next entries child =>
            have further : Trail.Leads root ((piece, .folder entries) :: trail) :=
              ⟨child, rfl, leads⟩
            rw [← Trail.names_cons piece (.folder entries)]
            exact ih further walked
          · cases walked
          · cases walked

/-- Folders stay folders. -/
def KeepsFolders (before after : Tree) : Prop :=
  ∀ way, before.look way = some .folder → after.look way = some .folder

/-- Where folders stay, a walk can be taken again. -/
theorem walk_of_keepsFolders {before after : Tree} (keeps : KeepsFolders before after)
    {pieces : List String} {trail trail' final : Trail} (leads : trail.Leads before)
    (leads' : trail'.Leads after) (same : trail.names = trail'.names)
    (walked : walk before trail pieces = .ok final) :
    ∃ final', walk after trail' pieces = .ok final' ∧ final'.names = final.names := by
  induction pieces generalizing trail trail' with
  | nil =>
    cases walked
    exact ⟨trail', rfl, same.symm⟩
  | cons piece rest ih =>
    unfold walk at walked ⊢
    split at walked
    · next nowhere =>
      rw [if_pos nowhere]
      exact ih leads leads' same walked
    · next somewhere =>
      rw [if_neg somewhere]
      split at walked
      · next up =>
        rw [if_pos up]
        exact ih leads.tail leads'.tail (by rw [Trail.names_tail, Trail.names_tail, same]) walked
      · next down =>
        rw [if_neg down]
        split at walked
        · cases walked
        · next short =>
          rw [if_neg short]
          split at walked
          · next entries child =>
            -- The folder that was entered before is still one, whatever it holds by now.
            have stays := keeps (trail.names ++ [piece])
              (by rw [leads.look_child, child]; rfl)
            rw [same, leads'.look_child, Option.map_eq_some_iff] at stays
            obtain ⟨tree, child', folder⟩ := stays
            obtain ⟨entries', rfl⟩ := node_eq_folder folder
            rw [child']
            have further : Trail.Leads before ((piece, .folder entries) :: trail) :=
              ⟨child, rfl, leads⟩
            have further' : Trail.Leads after ((piece, .folder entries') :: trail') :=
              ⟨child', rfl, leads'⟩
            exact ih further further' (by rw [Trail.names_cons, Trail.names_cons, same]) walked
          · cases walked
          · cases walked

/-! ### Places -/

/-- The way down to a place. -/
def Place.way (place : Place) : List String := place.folder ++ place.name.toList

/-- The name at a place is no longer than the system takes. -/
def Place.IsShort (place : Place) : Prop :=
  ∀ name, place.name = some name → name.utf8ByteSize ≤ Path.maxPiece

theorem wayOf_of_reversed {pieces : List String} {last : String} {before : List String}
    (h : pieces.reverse.dropWhile String.isEmpty = last :: before) :
    Path.wayOf pieces = Path.follow (before.reverse.foldl Path.follow []) last := by
  have parts := List.takeWhile_append_dropWhile (p := String.isEmpty) (l := pieces.reverse)
  have whole : pieces = before.reverse ++ last ::
      (pieces.reverse.takeWhile String.isEmpty).reverse := by
    rw [h] at parts
    have back := congrArg List.reverse parts
    simpa using back.symm
  have empty : ∀ piece ∈ (pieces.reverse.takeWhile String.isEmpty).reverse, piece = "" := by
    intro piece member
    have blank := List.mem_takeWhile_imp (List.mem_reverse.mp member)
    simpa using blank
  rw [Path.wayOf, whole, List.foldl_append, List.foldl_cons, Path.foldl_follow_of_empty empty]

/-- What the last piece of a path makes of the folder before it. -/
def placeIn (trail : Trail) (last : String) (asFolder : Bool) : Place :=
  if last = "." then ⟨trail.names, none, asFolder⟩
  else if last = ".." then ⟨Trail.names trail.tail, none, asFolder⟩
  else ⟨trail.names, some last, asFolder⟩

theorem names_placeIn {trail trail' : Trail} (same : trail.names = trail'.names) (last : String)
    (asFolder : Bool) : placeIn trail last asFolder = placeIn trail' last asFolder := by
  simp only [placeIn, Trail.names_tail, same]

/-- A path leads to the root, or to what its last piece makes of a walk. -/
theorem place_cases {root : Tree} {path : String} {place : Place}
    (found : root.place path = .ok place) :
    (∀ other : Tree, other.place path = .ok place) ∧ place.folder = [] ∧ place.name = none ∧
        Path.way path = [] ∨
      ∃ trail last before asFolder,
        (Path.pieces path).reverse.dropWhile String.isEmpty = last :: before ∧
        walk root [] before.reverse = .ok trail ∧ place = placeIn trail last asFolder ∧
        ∀ other : Tree, ∀ trail', walk other [] before.reverse = .ok trail' →
          other.place path = .ok (placeIn trail' last asFolder) := by
  unfold Tree.place at found ⊢
  dsimp only at found ⊢
  split at found
  · cases found
  next written =>
  split at found
  · cases found
  next sound =>
  split at found
  · cases found
  next short =>
  simp only [if_neg written, if_neg sound, if_neg short]
  split at found
  · next slashes =>
    have empty : ∀ piece ∈ Path.pieces path, piece = "" := by
      intro piece member
      have blank := List.dropWhile_eq_nil_iff.mp slashes piece (List.mem_reverse.mpr member)
      simpa using blank
    cases found
    exact .inl ⟨fun _ => rfl, rfl, rfl, Path.foldl_follow_of_empty empty []⟩
  · next last before pieces =>
    have taken (other : Tree) (trail : Trail) (walked : walk other [] before.reverse = .ok trail)
        (asFolder : Bool) :
        (do
          let trail ← walk other [] before.reverse
          if last = "." then return ⟨trail.names, none, asFolder⟩
          else if last = ".." then return ⟨Trail.names trail.tail, none, asFolder⟩
          else return ⟨trail.names, some last, asFolder⟩) =
          (.ok (placeIn trail last asFolder) : Except StorageFault Place) := by
      rw [walked]
      dsimp only [bind, Except.bind]
      unfold placeIn
      split
      · rfl
      · split <;> rfl
    obtain ⟨trail, walked, -⟩ := bind_eq_ok_iff.mp found
    rw [taken root trail walked] at found
    cases found
    exact .inr ⟨trail, last, before, _, pieces, walked, rfl,
      fun other trail' walked' => taken other trail' walked' _⟩

/-- The place of a path lies where the path spells, and in a folder. -/
theorem place_spec {root : Tree} {path : String} {place : Place} (rooted : Rooted root)
    (found : root.place path = .ok place) :
    place.way = Path.way path ∧ root.look place.folder = some .folder := by
  rcases place_cases found with
    ⟨-, folder, name, way⟩ | ⟨trail, last, before, asFolder, pieces, walked, rfl, -⟩
  · rw [Place.way, folder, name, way]
    exact ⟨rfl, rooted⟩
  · obtain ⟨leads, names⟩ := walk_leads (.nil root) walked
    have kept : last ≠ "" := by
      intro blank
      have first := List.head?_dropWhile_not String.isEmpty (Path.pieces path).reverse
      rw [pieces, blank] at first
      simp at first
    have start : Trail.names [] = [] := rfl
    rw [Path.way, wayOf_of_reversed pieces, ← start, ← names]
    unfold placeIn Path.follow Place.way
    by_cases dot : last = "."
    · rw [if_pos dot, if_pos (.inr dot)]
      exact ⟨List.append_nil _, leads.look_names rooted⟩
    · have moves : ¬(last = "" ∨ last = ".") := by simp [kept, dot]
      rw [if_neg dot, if_neg moves]
      by_cases up : last = ".."
      · rw [if_pos up, if_pos up, ← Trail.names_tail]
        exact ⟨List.append_nil _, leads.tail.look_names rooted⟩
      · rw [if_neg up, if_neg up]
        exact ⟨rfl, leads.look_names rooted⟩

/-- Where folders stay, every path leads to the place where it led. -/
theorem place_of_keepsFolders {before after : Tree} (keeps : KeepsFolders before after)
    {path : String} {place : Place} (found : before.place path = .ok place) :
    after.place path = .ok place := by
  rcases place_cases found with
    ⟨anywhere, -⟩ | ⟨trail, last, pieces, asFolder, -, walked, rfl, taken⟩
  · exact anywhere after
  · obtain ⟨trail', walked', same⟩ :=
      walk_of_keepsFolders keeps (.nil before) (.nil after) rfl walked
    rw [names_placeIn same.symm]
    exact taken after trail' walked'

/-! ### Files -/

theorem atPlace_eq_ok_iff {root : Tree} {place : Place} {found? : Option Tree} :
    root.atPlace place = .ok found? ↔ place.IsShort ∧ root.at? place.way = found? := by
  unfold atPlace Place.IsShort Place.way
  cases place.name with
  | none => simp
  | some name =>
    by_cases long : Path.maxPiece < name.utf8ByteSize
    · simp [long, Nat.not_le.mpr long]
    · simp [long, Nat.le_of_not_lt long]

/-- What a path leads to stands at the end of its way. -/
theorem find_eq_ok_iff {root : Tree} {path : String} {tree : Tree} :
    root.find path = .ok tree ↔ ∃ place, root.place path = .ok place ∧ place.IsShort ∧
      root.at? place.way = some tree ∧ (place.asFolder = true → tree.isFolder = true) := by
  unfold find
  rw [bind_eq_ok_iff]
  constructor
  · rintro ⟨place, found, rest⟩
    obtain ⟨found?, here, rest⟩ := bind_eq_ok_iff.mp rest
    obtain ⟨short, stands⟩ := atPlace_eq_ok_iff.mp here
    split at rest
    · cases rest
    · split at rest
      · cases rest
      · next fits =>
        cases rest
        exact ⟨place, found, short, stands, by simpa using fits⟩
  · rintro ⟨place, found, short, stands, fits⟩
    refine ⟨place, found, bind_eq_ok_iff.mpr ⟨_, atPlace_eq_ok_iff.mpr ⟨short, stands⟩, ?_⟩⟩
    dsimp only
    rw [if_neg (by simpa using fits)]

/-- The text of a file is read where it stands. -/
theorem read_eq_ok_iff {root : Tree} {path text : String} :
    root.read path = .ok text ↔ ∃ place, root.place path = .ok place ∧ place.IsShort ∧
      place.asFolder = false ∧ root.look place.way = some (.file (.text text)) := by
  unfold read look
  rw [bind_eq_ok_iff]
  constructor
  · rintro ⟨tree, found, rest⟩
    obtain ⟨place, led, short, stands, fits⟩ := find_eq_ok_iff.mp found
    split at rest
    · cases rest
    · cases rest
      exact ⟨place, led, short, by simpa [isFolder] using fits, by rw [stands]; rfl⟩
    · cases rest
  · rintro ⟨place, led, short, fits, here⟩
    obtain ⟨tree, stands, node⟩ := Option.map_eq_some_iff.mp here
    refine ⟨tree, find_eq_ok_iff.mpr ⟨place, led, short, stands, by simp [fits]⟩, ?_⟩
    cases tree with
    | folder entries => cases node
    | file content =>
      cases node
      rfl

theorem contains_of_read {root : Tree} {path text : String} (answer : root.read path = .ok text) :
    root.contains path = true := by
  obtain ⟨tree, found, -⟩ := bind_eq_ok_iff.mp answer
  rw [contains, found]
  rfl

end Tree
end SchemaSource
