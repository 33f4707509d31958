import SchemaSource.Proofs.QuotedText
/-!
A scan of source text from left to right. It skips string literals and comments, and outside of them
every closing bracket has to match the innermost open one. A text that stands in a longer one is
judged by what it makes of the brackets that are open before it.
-/
namespace SchemaSource

inductive Bracket where
  | round
  | square
  | curly
  deriving DecidableEq

namespace Bracket

def ofOpening? (c : Char) : Option Bracket :=
  if c = '(' then some .round
  else if c = '[' then some .square
  else if c = '\x7b' then some .curly
  else none

def ofClosing? (c : Char) : Option Bracket :=
  if c = ')' then some .round
  else if c = ']' then some .square
  else if c = '\x7d' then some .curly
  else none

end Bracket

/-- What the next character belongs to. -/
inductive ScanMode where
  | code
  /-- Code after a slash, which opens a comment before a star. -/
  | slash
  | string
  /-- A string after a backslash, where any character only continues the string. -/
  | escape
  | comment
  /-- A comment after a star, which ends before a slash. -/
  | star
  deriving DecidableEq

namespace ScanMode

/-- What follows a character that is skipped; a character of code is not. -/
def skip? : ScanMode → Char → Option ScanMode
  | .code, _ => none
  | .slash, c => if c = '*' then some .comment else none
  | .string, c => some (if c = '"' then .code else if c = '\\' then .escape else .string)
  | .escape, _ => some .string
  | .comment, c => some (if c = '*' then .star else .comment)
  | .star, c => some (if c = '/' then .code else if c = '*' then .star else .comment)

end ScanMode

/-- How far a scan has come: what it is in, and the brackets that are open, the innermost first. -/
structure Scan where
  mode : ScanMode
  brackets : List Bracket
  deriving DecidableEq

namespace Scan

/-- The start of a text, and the only good end. -/
def start : Scan := ⟨.code, []⟩

/-- The brackets that stay open when one is closed, which has to be the innermost. -/
def close? (bracket : Bracket) : List Bracket → Option (List Bracket)
  | innermost :: rest => if innermost = bracket then some rest else none
  | [] => none

/-- One character of code. A bracket that closes what is not open ends the scan. -/
def readCode (brackets : List Bracket) (c : Char) : Option Scan :=
  if c = '"' then some ⟨.string, brackets⟩
  else if c = '/' then some ⟨.slash, brackets⟩
  else
    match Bracket.ofOpening? c, Bracket.ofClosing? c with
    | some bracket, _ => some ⟨.code, bracket :: brackets⟩
    | none, some bracket => (close? bracket brackets).map fun rest => ⟨.code, rest⟩
    | none, none => some ⟨.code, brackets⟩

def step (scan : Scan) (c : Char) : Option Scan :=
  match scan.mode.skip? c with
  | some mode => some ⟨mode, scan.brackets⟩
  | none => readCode scan.brackets c

def run (scan : Scan) : List Char → Option Scan
  | [] => some scan
  | c :: rest => (scan.step c).bind fun next => next.run rest

theorem run_append (scan : Scan) (first second : List Char) :
    scan.run (first ++ second) = (scan.run first).bind fun next => next.run second := by
  induction first generalizing scan with
  | nil => rfl
  | cons c rest ih =>
    rw [List.cons_append, run, run]
    cases scan.step c with
    | none => rfl
    | some next => exact ih next

/-! ## Brackets further out -/

/-- The same place with more brackets around it. -/
def within (scan : Scan) (outer : List Bracket) : Scan := ⟨scan.mode, scan.brackets ++ outer⟩

theorem close?_append {bracket : Bracket} {brackets rest : List Bracket} (outer : List Bracket)
    (closed : close? bracket brackets = some rest) :
    close? bracket (brackets ++ outer) = some (rest ++ outer) := by
  cases brackets with
  | nil => cases closed
  | cons innermost inner =>
    rw [List.cons_append, close?] at *
    by_cases same : innermost = bracket
    · rw [if_pos same] at closed ⊢
      cases closed
      rfl
    · rw [if_neg same] at closed
      cases closed

theorem readCode_within {brackets : List Bracket} {c : Char} {next : Scan} (outer : List Bracket)
    (read : readCode brackets c = some next) :
    readCode (brackets ++ outer) c = some (next.within outer) := by
  unfold readCode at *
  by_cases quote : c = '"'
  · rw [if_pos quote] at read ⊢
    cases read
    rfl
  by_cases slash : c = '/'
  · rw [if_neg quote, if_pos slash] at read ⊢
    cases read
    rfl
  rw [if_neg quote, if_neg slash] at read ⊢
  cases opening : Bracket.ofOpening? c with
  | some bracket =>
    simp only [opening, Option.some.injEq] at read ⊢
    rw [← read]
    rfl
  | none =>
    cases closing : Bracket.ofClosing? c with
    | none =>
      simp only [opening, closing, Option.some.injEq] at read ⊢
      rw [← read]
      rfl
    | some bracket =>
      simp only [opening, closing] at read ⊢
      obtain ⟨rest, closed, rfl⟩ := Option.map_eq_some_iff.mp read
      rw [close?_append outer closed]
      rfl

theorem step_within {scan next : Scan} {c : Char} (outer : List Bracket)
    (stepped : scan.step c = some next) : (scan.within outer).step c = some (next.within outer) := by
  unfold step within at *
  cases skipped : scan.mode.skip? c with
  | some mode =>
    simp only [skipped, Option.some.injEq] at stepped ⊢
    rw [← stepped]
  | none =>
    simp only [skipped] at stepped ⊢
    exact readCode_within outer stepped

/-- Brackets further out do not disturb a scan that never closes them. -/
theorem run_within {scan last : Scan} {text : List Char} (outer : List Bracket)
    (ran : scan.run text = some last) : (scan.within outer).run text = some (last.within outer) := by
  induction text generalizing scan with
  | nil =>
    cases ran
    rfl
  | cons c rest ih =>
    rw [run] at ran ⊢
    cases stepped : scan.step c with
    | none =>
      rw [stepped] at ran
      cases ran
    | some next =>
      rw [stepped] at ran
      rw [step_within outer stepped]
      exact ih ran

end Scan

namespace Text

/-- A scan of the text ends outside of strings and comments, with every bracket matched. -/
def IsWellNested (text : String) : Prop := Scan.start.run text.toList = some .start

instance (text : String) : Decidable (IsWellNested text) := inferInstanceAs (Decidable (_ = _))

example : IsWellNested "f(\"\\\")\" /* ] */)" := by decide
example : ¬IsWellNested "f([)]" := by decide
example : ¬IsWellNested "f() /* **" := by decide

/-! ## Texts within a text -/

/-- A piece of code closes the brackets `before`, the innermost first, and leaves `after` open in
their place. It has line ends only where those are allowed. -/
structure Moves (lines : Bool) (before : List Bracket) (text : String) (after : List Bracket) :
    Prop where
  run (outer : List Bracket) :
    Scan.run ⟨.code, before ++ outer⟩ text.toList = some ⟨.code, after ++ outer⟩
  inLine : lines = false → '\n' ∉ text.toList

namespace Moves

variable {lines : Bool} {before between after : List Bracket} {first second : String}

/-- Fixed texts are settled by running them. -/
theorem fixed {text : String}
    (settled : Scan.run ⟨.code, before⟩ text.toList = some ⟨.code, after⟩ ∧ '\n' ∉ text.toList) :
    Moves lines before text after where
  run outer := Scan.run_within outer settled.1
  inLine _ := settled.2

/-- Where line ends are allowed, only the run counts. -/
theorem fixed_in_lines {text : String}
    (settled : Scan.run ⟨.code, before⟩ text.toList = some ⟨.code, after⟩) :
    Moves true before text after where
  run outer := Scan.run_within outer settled
  inLine flat := nomatch flat

theorem append (head : Moves lines before first between) (tail : Moves lines between second after) :
    Moves lines before (first ++ second) after := by
  constructor
  · intro outer
    rw [String.toList_append, Scan.run_append, head.run outer]
    exact tail.run outer
  · intro flat member
    rw [String.toList_append, List.mem_append] at member
    rcases member with inFirst | inSecond
    · exact head.inLine flat inFirst
    · exact tail.inLine flat inSecond

theorem empty (before : List Bracket) : Moves lines before "" before where
  run _ := rfl
  inLine _ := List.not_mem_nil

/-- What leaves the brackets alone does so between any others. -/
theorem between_brackets {text : String} (inner : Moves lines [] text []) (before : List Bracket) :
    Moves lines before text before where
  run outer := inner.run (before ++ outer)
  inLine := inner.inLine

theorem isWellNested {text : String} (moves : Moves lines [] text []) : IsWellNested text :=
  moves.run []

theorem join {texts : List String} (each : ∀ text ∈ texts, Moves lines [] text []) :
    Moves lines [] (String.join texts) [] := by
  induction texts with
  | nil => exact .empty []
  | cons text rest ih =>
    rw [String.join_cons]
    exact (each text List.mem_cons_self).append
      (ih fun other member => each other (List.mem_cons_of_mem _ member))

theorem intercalate {separator : String} {texts : List String}
    (between : Moves lines [] separator []) (each : ∀ text ∈ texts, Moves lines [] text []) :
    Moves lines [] (separator.intercalate texts) [] := by
  induction texts with
  | nil => exact .empty []
  | cons text rest ih =>
    have head := each text List.mem_cons_self
    have tail := ih fun other member => each other (List.mem_cons_of_mem _ member)
    cases rest with
    | nil =>
      rw [String.intercalate_singleton]
      exact head
    | cons next rest =>
      rw [String.intercalate_cons_cons]
      exact (head.append between).append tail

end Moves

/-! ## Plain text -/

/-- The characters that mean something to a scan of code. -/
def activeChars : List Char := ['(', ')', '[', ']', '\x7b', '\x7d', '"', '/']

theorem readCode_of_inert {c : Char} (inert : c ∉ activeChars) (brackets : List Bracket) :
    Scan.readCode brackets c = some ⟨.code, brackets⟩ := by
  simp only [activeChars, List.mem_cons, List.not_mem_nil, or_false, not_or] at inert
  simp only [Scan.readCode, Bracket.ofOpening?, Bracket.ofClosing?, inert, if_false]

theorem run_of_inert {cs : List Char} (inert : ∀ c ∈ cs, c ∉ activeChars)
    (brackets : List Bracket) (rest : List Char) :
    Scan.run ⟨.code, brackets⟩ (cs ++ rest) = Scan.run ⟨.code, brackets⟩ rest := by
  induction cs with
  | nil => rfl
  | cons c tail ih =>
    have read : Scan.step ⟨.code, brackets⟩ c = some ⟨.code, brackets⟩ :=
      readCode_of_inert (inert c List.mem_cons_self) brackets
    rw [List.cons_append, Scan.run, read, Option.bind_some]
    exact ih fun other member => inert other (List.mem_cons_of_mem _ member)

/-- A text on one line that means nothing to a scan of code. -/
def IsPlain (text : String) : Prop := ∀ c ∈ text.toList, c ∉ '\n' :: activeChars

-- The characters of the text are tried, not all there are.
instance (text : String) : Decidable (IsPlain text) :=
  List.decidableBAll (fun c => c ∉ '\n' :: activeChars) text.toList

namespace IsPlain

variable {lines : Bool} {first second text : String}

theorem inert (plain : IsPlain text) : ∀ c ∈ text.toList, c ∉ activeChars :=
  fun c member active => plain c member (List.mem_cons_of_mem _ active)

theorem moves (plain : IsPlain text) : Moves lines [] text [] := by
  constructor
  · intro outer
    have ran := run_of_inert plain.inert ([] ++ outer) []
    rw [List.append_nil] at ran
    exact ran
  · intro _ member
    exact plain '\n' member List.mem_cons_self

theorem append (head : IsPlain first) (tail : IsPlain second) : IsPlain (first ++ second) := by
  intro c member
  rw [String.toList_append, List.mem_append] at member
  rcases member with inFirst | inSecond
  · exact head c inFirst
  · exact tail c inSecond

/-- Characters that pass a test which no meaningful one passes. -/
theorem of_all {p : Char → Bool} (apart : ('\n' :: activeChars).any p = false)
    (all : ∀ c ∈ text.toList, p c = true) : IsPlain text := by
  intro c member active
  exact List.any_eq_false.mp apart c active (all c member)

end IsPlain
end Text
end SchemaSource
