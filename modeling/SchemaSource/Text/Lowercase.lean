import SchemaSource.Text.CaseTable
/-!
Small letters for capital ones. A capital sigma depends on its place: at the end of a word it takes
the final form.
-/
namespace SchemaSource.Text

def inRanges (ranges : List (Nat × Nat)) (c : Char) : Bool :=
  ranges.any fun (first, last) => first ≤ c.toNat && c.toNat ≤ last

/-- The row of capitals that a character belongs to. -/
def CaseTable.Capitals.contains (row : CaseTable.Capitals) (c : Char) : Bool :=
  row.first ≤ c.toNat && c.toNat ≤ row.last && (c.toNat - row.first) % row.step == 0

/-- The small form of a character by itself. The dotted capital I keeps its dot as a mark. -/
def lowerChar (c : Char) : List Char :=
  if c = '\u0130' then ['i', '\u0307']
  else match CaseTable.capitals.find? (·.contains c) with
    | some row => [Char.ofNat (c.toNat + row.distance).toNat]
    | none => [c]

/-- The next character that counts is a letter with case. -/
def letterFollows (cs : List Char) : Bool :=
  match cs.dropWhile (inRanges CaseTable.ignored) with
  | c :: _ => inRanges CaseTable.letters c
  | [] => false

/-- The small forms of a text, given what came before it, last first. -/
def lowerFrom (before : List Char) : List Char → List Char
  | [] => []
  | c :: rest =>
    let small :=
      if c = '\u03A3' then
        if letterFollows before && !letterFollows rest then ['\u03C2'] else ['\u03C3']
      else lowerChar c
    small ++ lowerFrom (c :: before) rest

def lowercase (s : String) : String := String.ofList (lowerFrom [] s.toList)

/-- Small letters for the capitals of ASCII; all other characters stay. -/
def lowercaseAscii (s : String) : String := String.ofList (s.toList.map Char.toLower)

end SchemaSource.Text
