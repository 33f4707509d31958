/-!
Patterns for names. A question mark stands for one character, an asterisk for any run of them,
brackets for one character of a set or outside it, and a doubled asterisk, which must be a whole
component, for any number of components. Every other character stands for itself.

Assumed of the library that matches names, under the options that it has by default: characters are
compared exactly; an asterisk and a question mark also stand for a slash, and nothing is special
about a point in front of a name; in brackets a hyphen between two characters makes a range, an
exclamation mark in front excludes, and a bracket right after the opening one is a character like
any other.
-/
namespace SchemaSource.Glob

/-- What a part of a pattern stands for. -/
inductive Token where
  | literal (c : Char)
  | anyChar
  /-- A character in one of these ranges. -/
  | within (ranges : List (Char × Char))
  /-- A character in none of these ranges. -/
  | outside (ranges : List (Char × Char))
  | anyRun
  /-- Nothing, some whole components, or all that is left. -/
  | components
  deriving DecidableEq, Repr

inductive Fault where
  | tooManyAsterisks
  | brokenComponent
  | badBrackets
  deriving DecidableEq, Repr

def Fault.message : Fault → String
  | .tooManyAsterisks => "wildcards are either regular `*` or recursive `**`"
  | .brokenComponent => "recursive wildcards must form a single path component"
  | .badBrackets => "invalid range pattern"

/-- The ranges that stand between brackets. A hyphen makes a range only between two characters. -/
def ranges : List Char → List (Char × Char)
  | low :: '-' :: high :: rest => (low, high) :: ranges rest
  | c :: rest => (c, c) :: ranges rest
  | [] => []

/-- What stands before the closing bracket, and what follows it. -/
def bracketed? (text : List Char) :
    Option (List Char × { after : List Char // after.length < text.length }) :=
  match text with
  | [] => none
  | c :: rest =>
    if c = ']' then some ([], ⟨rest, by simp⟩)
    else
      match bracketed? rest with
      | some (set, ⟨after, h⟩) => some (c :: set, ⟨after, by simp only [List.length_cons]; omega⟩)
      | none => none

/-- The tokens of a pattern, or of what is left of it after the start of a component or a place
inside one. The first character in brackets cannot close them. -/
def tokens (startsComponent : Bool) : List Char → Except Fault (List Token)
  | [] => .ok []
  | '?' :: rest => do return .anyChar :: (← tokens false rest)
  | '*' :: '*' :: '*' :: _ => .error .tooManyAsterisks
  | '*' :: '*' :: rest =>
    if startsComponent then
      match rest with
      | [] => .ok [.components]
      | '/' :: rest => do return .components :: (← tokens true rest)
      | _ => .error .brokenComponent
    else .error .brokenComponent
  | '*' :: rest => do return .anyRun :: (← tokens false rest)
  | '[' :: '!' :: first :: rest =>
    match bracketed? rest with
    | some (set, ⟨after, _⟩) => do
      return .outside (ranges (first :: set)) :: (← tokens false after)
    | none => .error .badBrackets
  | ['[', '!'] => .error .badBrackets
  | '[' :: first :: rest =>
    match bracketed? rest with
    | some (set, ⟨after, _⟩) => do
      return .within (ranges (first :: set)) :: (← tokens false after)
    | none => .error .badBrackets
  | ['['] => .error .badBrackets
  | c :: rest => do return .literal c :: (← tokens (c == '/') rest)
termination_by pattern => pattern.length

def inRanges (ranges : List (Char × Char)) (c : Char) : Bool :=
  ranges.any fun (low, high) => low ≤ c && c ≤ high

def Token.accepts : Token → Char → Bool
  | .literal expected, c => c == expected
  | .anyChar, _ => true
  | .within ranges, c => inRanges ranges c
  | .outside ranges, c => !inRanges ranges c
  | .anyRun, _ | .components, _ => false

/-- What can be left of a text after some characters, the longest first. -/
def afterRuns : List Char → List (List Char)
  | [] => [[]]
  | c :: rest => (c :: rest) :: afterRuns rest

/-- What can be left of a text after some whole components, of which the last need not be closed. -/
def afterComponents : List Char → List (List Char)
  | [] => [[]]
  | c :: rest => if c = '/' then rest :: afterComponents rest else afterComponents rest

/-- A whole text is what these tokens stand for. -/
def accepts : List Token → List Char → Bool
  | [], text => text.isEmpty
  | .anyRun :: rest, text => (afterRuns text).any (accepts rest)
  | .components :: rest, text => accepts rest text || (afterComponents text).any (accepts rest)
  | token :: rest, c :: text => token.accepts c && accepts rest text
  | _ :: _, [] => false

/-! Trying every way to divide a text among many runs takes too long. The answers for all that can
be left of a text stand in one list instead, and a token in front is one pass over that list. -/

/-- What a run makes of the answers: some answer from there on is yes. -/
def runAnswers : List Bool → List Bool
  | [] => []
  | answer :: rest =>
    let later := runAnswers rest
    (answer || later.headD false) :: later

/-- What components, at least one, make of the answers: some answer after a closed component or at
the end is yes. -/
def componentAnswers : List Char → List Bool → List Bool
  | c :: text, _ :: rest =>
    let later := componentAnswers text rest
    ((c == '/' && rest.headD false) || later.headD false) :: later
  | _, atEnd => atEnd

/-- For all that can be left of a text, the longest first: is it what the tokens stand for? -/
def answers : List Token → List Char → List Bool
  | [], text => (afterRuns text).map List.isEmpty
  | .anyRun :: rest, text => runAnswers (answers rest text)
  | .components :: rest, text =>
    let now := answers rest text
    List.zipWith or now (componentAnswers text now)
  | token :: rest, text =>
    List.zipWith (fun c later => token.accepts c && later) text (answers rest text).tail ++ [false]

theorem headD_map_afterRuns (accept : List Char → Bool) (text : List Char) :
    ((afterRuns text).map accept).headD false = accept text := by
  cases text <;> rfl

theorem runAnswers_map (accept : List Char → Bool) (text : List Char) :
    runAnswers ((afterRuns text).map accept)
      = (afterRuns text).map fun left => (afterRuns left).any accept := by
  induction text with
  | nil => simp [afterRuns, runAnswers]
  | cons c rest ih =>
    simp only [afterRuns, List.map_cons, runAnswers, ih, headD_map_afterRuns, List.any_cons]

theorem componentAnswers_map (accept : List Char → Bool) (text : List Char) :
    componentAnswers text ((afterRuns text).map accept)
      = (afterRuns text).map fun left => (afterComponents left).any accept := by
  induction text with
  | nil => simp [afterRuns, afterComponents, componentAnswers]
  | cons c rest ih =>
    simp only [afterRuns, List.map_cons, componentAnswers, ih, headD_map_afterRuns, afterComponents]
    by_cases h : c = '/' <;> simp [h]

theorem zipWith_tail_map (accept : List Char → Bool) (first : Char → Bool) (text : List Char) :
    List.zipWith (fun c later => first c && later) text ((afterRuns text).map accept).tail
        ++ [false]
      = (afterRuns text).map fun
        | c :: left => first c && accept left
        | [] => false := by
  induction text with
  | nil => rfl
  | cons c rest ih =>
    cases rest with
    | nil => simp [afterRuns]
    | cons d rest => simpa [afterRuns] using ih

/-- The list holds the answers of `accepts`. -/
theorem answers_eq_map (tokens : List Token) (text : List Char) :
    answers tokens text = (afterRuns text).map (accepts tokens) := by
  induction tokens with
  | nil => rfl
  | cons token rest ih =>
    have single (h : ∀ left, accepts (token :: rest) left = match left with
        | c :: left => token.accepts c && accepts rest left
        | [] => false) :
        List.zipWith (fun c later => token.accepts c && later) text (answers rest text).tail
          ++ [false] = (afterRuns text).map (accepts (token :: rest)) := by
      rw [ih, zipWith_tail_map]
      exact List.map_congr_left fun left _ => by rw [h left]
    cases token with
    | anyRun => simp only [answers, ih, runAnswers_map, accepts]
    | components =>
      simp only [answers, ih, componentAnswers_map, List.zipWith_map, List.zipWith_self, accepts]
    | _ => exact single fun left => by cases left <;> rfl

/-- The whole text is what the tokens stand for, found in one pass over the text for each token. -/
def recognizes (tokens : List Token) (text : List Char) : Bool := (answers tokens text).headD false

theorem recognizes_eq_accepts (tokens : List Token) (text : List Char) :
    recognizes tokens text = accepts tokens text := by
  rw [recognizes, answers_eq_map, headD_map_afterRuns]

def compile (pattern : String) : Except Fault (String → Bool) :=
  match tokens true pattern.toList with
  | .ok tokens => .ok fun name => recognizes tokens name.toList
  | .error fault => .error fault

end SchemaSource.Glob
