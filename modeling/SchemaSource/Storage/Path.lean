/-!
Paths as they are written: pieces with slashes between them. Empty pieces and single dots lead
nowhere, except for a dot at the start, which stands for the folder where the path begins.
-/
namespace SchemaSource.Path

def maxPiece : Nat := 255

def maxSize : Nat := 4095

/-- What stands between the slashes. -/
def split : List Char → List (List Char)
  | [] => [[]]
  | c :: rest =>
    if c = '/' then [] :: split rest
    else match split rest with
      | [] => [[c]]
      | piece :: pieces => (c :: piece) :: pieces

def pieces (path : String) : List String := (split path.toList).map String.ofList

/-- A path without pieces at its end that lead nowhere. The last piece comes first. -/
def trimEnd : List String → List String
  | [] => []
  | [first] => [first]
  | last :: rest => if last = "" ∨ last = "." then trimEnd rest else last :: rest

/-- The pieces of the path to the folder that holds what a path leads to, the last one first. A path
of a single piece has the empty path for its parent; an empty path has none. -/
def parentPieces? (reversed : List String) : Option (List String) :=
  match trimEnd reversed with
  | [] => none
  | [first] => if first = "" then none else some []
  | _ :: rest => some (trimEnd rest)

theorem length_trimEnd_le (pieces : List String) : (trimEnd pieces).length ≤ pieces.length := by
  fun_induction trimEnd pieces with
  | case1 => simp
  | case2 => simp
  | case3 last rest _ _ ih => exact Nat.le_succ_of_le ih
  | case4 => simp

/-- A folder lies higher than what it holds. -/
theorem length_parentPieces?_lt {pieces parent : List String}
    (h : parentPieces? pieces = some parent) : parent.length < pieces.length := by
  have outer := length_trimEnd_le pieces
  unfold parentPieces? at h
  split at h
  · simp at h
  · next heq =>
    split at h
    · simp at h
    · cases h
      simp only [heq, List.length_cons] at outer
      exact Nat.lt_of_lt_of_le Nat.zero_lt_one outer
  · next rest _ heq =>
    cases h
    have inner := length_trimEnd_le rest
    simp only [heq, List.length_cons] at outer
    omega

/-- The path that some pieces spell, the last one first. -/
def ofReversed (reversed : List String) : String :=
  if reversed = [""] then "/" else "/".intercalate reversed.reverse

def parent? (path : String) : Option String :=
  (parentPieces? (pieces path).reverse).map ofReversed

end SchemaSource.Path
