import SchemaSource.Numeral
import SchemaSource.Proofs.IntegerText
import SchemaSource.Proofs.QuotedText
/-!
Chains of calls as text. A term is built from words, lists, chains and blocks of properties, and its
text is read back in one way: no two terms start the same text unless one of them goes on.
-/
namespace SchemaSource

/-! ## Terms -/

/-- The words that stand for a value by name: symbolic numbers and constants. -/
def valueNames : List String :=
  Numeral.ofNumber.map (·.text "") ++ ["true", "false", "null"]

/-- What is written in one word. -/
inductive Word where
  | quoted (content : String)
  | digits (n : Int)
  | named (name : String) (known : name ∈ valueNames)

def Word.text : Word → String
  | .quoted content => Text.quote content
  | .digits n => toString n
  | .named name _ => name

/-- The name of a method. It ends where its arguments start. -/
@[ext]
structure MethodName where named ::
  text : String
  ends : '(' ∉ text.toList := by decide

mutual

inductive Term where
  | word (word : Word)
  | list (items : List Term)
  /-- Calls of methods, one on the result of the other. -/
  | chain (calls : List Call)
  /-- Properties in braces, each with a chain for a value. -/
  | block (entries : List (String × List Call))

inductive Call where
  | mk (name : MethodName) (arguments : List Term)

end

/-! ## The text of terms -/

/-- What stands around and between the properties of a block. -/
structure Frame where
  opening : List Char
  between : List Char
  closing : List Char

/-- How options set the properties of a block that stands at a level. -/
def Options.frame (options : Options) (level : Nat) : Frame :=
  if options.format then
    { opening := '\x7b' :: '\n' :: (Doc.indentation options (level + 1)).toList
      between := ',' :: '\n' :: (Doc.indentation options (level + 1)).toList
      closing := ',' :: '\n' :: ((Doc.indentation options level).toList ++ ['\x7d']) }
  else
    { opening := ['\x7b', ' ']
      between := [',', ' ']
      closing := [' ', '\x7d'] }

namespace Term

variable (options : Options)

mutual

/-- The text of a term that stands at a level. -/
def chars (level : Nat) : Term → List Char
  | .word w => w.text.toList
  | .list items => '[' :: (commas level items ++ [']'])
  | .chain calls => 'z' :: links level calls
  | .block entries => braces level entries

/-- Terms with commas between them. -/
def commas (level : Nat) : List Term → List Char
  | [] => []
  | term :: rest => chars level term ++ more level rest

/-- Terms with a comma before each. -/
def more (level : Nat) : List Term → List Char
  | [] => []
  | term :: rest => ',' :: ' ' :: (chars level term ++ more level rest)

def links (level : Nat) : List Call → List Char
  | [] => []
  | .mk name arguments :: rest =>
    '.' :: (name.text.toList ++ '(' :: (commas level arguments ++ ')' :: links level rest))

def braces (level : Nat) : List (String × List Call) → List Char
  | [] => ['\x7b', '\x7d']
  | (name, calls) :: rest =>
    (options.frame level).opening ++ ((propertyName name).toList ++ ':' :: ' ' :: 'z'
      :: (links (level + 1) calls ++ properties level rest))

/-- The properties after the first one, and the end of their block. -/
def properties (level : Nat) : List (String × List Call) → List Char
  | [] => (options.frame level).closing
  | (name, calls) :: rest =>
    (options.frame level).between ++ ((propertyName name).toList ++ ':' :: ' ' :: 'z'
      :: (links (level + 1) calls ++ properties level rest))

end

end Term

/-! ## Words -/

/-- A word that is not quoted has nothing in it that could end it, or start another term. -/
def isWordChar (c : Char) : Bool :=
  c ∉ ['"', ',', ')', ']', '[', 'z', '{']

theorem toList_toString_int (n : Int) :
    (toString n).toList =
      if n < 0 then '-' :: Nat.toDigits 10 n.natAbs else Nat.toDigits 10 n.natAbs := by
  rw [Int.toString_eq_repr, Int.repr_eq_if]
  by_cases negative : n < 0
  · have size : (-n).toNat = n.natAbs := by omega
    rw [if_neg (by omega), if_pos negative, String.toList_append, size, Nat.toList_repr]
    rfl
  · have size : n.toNat = n.natAbs := by omega
    rw [if_pos (by omega), if_neg negative, size, Nat.toList_repr]

/-- An integer is written in digits, after a sign if it is negative. -/
theorem digit_of_mem_toString_int {n : Int} {c : Char} (inside : c ∈ (toString n).toList) :
    c = '-' ∨ c.isDigit = true := by
  have digit (member : c ∈ Nat.toDigits 10 n.natAbs) : c.isDigit = true :=
    Nat.isDigit_of_mem_toDigits (by decide) (by decide) member
  rw [toList_toString_int] at inside
  split at inside
  · rcases List.mem_cons.mp inside with sign | member
    · exact .inl sign
    · exact .inr (digit member)
  · exact .inr (digit inside)

theorem toString_int_inj {n m : Int} (same : (toString n).toList = (toString m).toList) :
    n = m := by
  have read {n m : Nat} (digits : Nat.toDigits 10 n = Nat.toDigits 10 m) : n = m := by
    have values := congrArg (Nat.ofDigitChars 10 · 0) digits
    simpa only [Nat.ofDigitChars_ten_toDigits] using values
  have unsigned (n : Nat) (rest : List Char) : Nat.toDigits 10 n ≠ '-' :: rest := by
    intro signed
    have digit := Nat.isDigit_of_mem_toDigits (b := 10) (n := n) (c := '-') (by decide) (by decide)
      (signed ▸ List.mem_cons_self)
    exact absurd digit (by decide)
  rw [toList_toString_int, toList_toString_int] at same
  split at same
  · split at same
    · have size := read (List.cons.inj same).2
      omega
    · exact absurd same.symm (unsigned _ _)
  · split at same
    · exact absurd same (unsigned _ _)
    · have size := read same
      omega

theorem isWordChar_of_digit {c : Char} (digit : c.isDigit = true) : isWordChar c = true := by
  simp only [isWordChar, List.mem_cons, decide_eq_true_eq]
  rintro (rfl | rfl | rfl | rfl | rfl | rfl | rfl | ⟨⟨⟩⟩) <;> exact absurd digit (by decide)

namespace Word

def isQuoted : Word → Bool
  | .quoted _ => true
  | _ => false

theorem isWordChar_of_mem {word : Word} (plain : word.isQuoted = false) :
    ∀ c ∈ word.text.toList, isWordChar c = true := by
  cases word with
  | quoted content => cases plain
  | digits n =>
    intro c inside
    rcases digit_of_mem_toString_int inside with rfl | digit
    · rfl
    · exact isWordChar_of_digit digit
  | named name known =>
    have each : ∀ name ∈ valueNames, name.toList.all isWordChar = true := by decide
    exact List.all_eq_true.mp (each name known)

/-- A name has a letter or a star, which no integer has. -/
theorem name_ne_digits {name : String} (known : name ∈ valueNames) (n : Int) :
    name.toList ≠ (toString n).toList := by
  have each : ∀ name ∈ valueNames,
      name.toList.any (fun c => c != '-' && !c.isDigit) = true := by decide
  intro same
  obtain ⟨c, inside, other⟩ := List.any_eq_true.mp (each name known)
  rcases digit_of_mem_toString_int (same ▸ inside) with rfl | digit
  · exact absurd other (by decide)
  · simp [digit] at other

theorem text_inj {word other : Word} (plain : word.isQuoted = false)
    (otherPlain : other.isQuoted = false) (same : word.text.toList = other.text.toList) :
    word = other := by
  cases word with
  | quoted content => cases plain
  | digits n =>
    cases other with
    | quoted content => cases otherPlain
    | digits m => exact congrArg digits (toString_int_inj same)
    | named name known => exact absurd same.symm (name_ne_digits known n)
  | named name known =>
    cases other with
    | quoted content => cases otherPlain
    | digits m => exact absurd same (name_ne_digits known m)
    | named name' known' =>
      cases String.toList_inj.mp same
      rfl

theorem text_ne_nil {word : Word} (plain : word.isQuoted = false) : word.text.toList ≠ [] := by
  cases word with
  | quoted content => cases plain
  | digits n =>
    rw [text, toList_toString_int]
    split
    · exact List.cons_ne_nil _ _
    · exact Nat.toDigits_ne_nil
  | named name known =>
    have each : ∀ name ∈ valueNames, name.toList ≠ [] := by decide
    exact each name known

end Word

/-- What comes next ends a word. -/
def Stops (rest : List Char) : Prop := ∀ c ∈ rest.head?, c = ',' ∨ c = ')' ∨ c = ']'

theorem not_isWordChar_of_stops {c : Char} {rest : List Char} (stops : Stops (c :: rest)) :
    isWordChar c = false := by
  rcases stops c rfl with rfl | rfl | rfl <;> rfl

theorem append_stop_inj {cs ds r s : List Char} (left : ∀ c ∈ cs, isWordChar c = true)
    (right : ∀ c ∈ ds, isWordChar c = true) (stops : Stops r) (stops' : Stops s)
    (h : cs ++ r = ds ++ s) : cs = ds ∧ r = s := by
  induction cs generalizing ds with
  | nil =>
    cases ds with
    | nil => exact ⟨rfl, h⟩
    | cons d ds =>
      subst h
      exact absurd (right d List.mem_cons_self)
        (by rw [not_isWordChar_of_stops stops]; exact Bool.noConfusion)
  | cons c cs ih =>
    cases ds with
    | nil =>
      subst h
      exact absurd (left c List.mem_cons_self)
        (by rw [not_isWordChar_of_stops stops']; exact Bool.noConfusion)
    | cons d ds =>
      obtain ⟨rfl, rest⟩ := List.cons.inj h
      obtain ⟨rfl, same⟩ := ih (fun c inside => left c (List.mem_cons_of_mem _ inside))
        (fun c inside => right c (List.mem_cons_of_mem _ inside)) rest
      exact ⟨rfl, same⟩

/-- The text of a quote starts with its mark, which no other word has. -/
theorem Word.quote_ne {content : String} {word : Word} (plain : word.isQuoted = false)
    {r s : List Char} : (Text.quote content).toList ++ r ≠ word.text.toList ++ s := by
  intro same
  cases letters : word.text.toList with
  | nil => exact text_ne_nil plain letters
  | cons first rest =>
    rw [Text.quote, String.toList_ofList, letters] at same
    have wordChar := isWordChar_of_mem plain first (letters ▸ List.mem_cons_self)
    rw [← (List.cons.inj same).1] at wordChar
    cases wordChar

/-- Words that are stopped are told apart from what stops them. -/
theorem Word.text_append_inj {word other : Word} {r s : List Char} (stops : Stops r)
    (stops' : Stops s) (h : word.text.toList ++ r = other.text.toList ++ s) :
    word = other ∧ r = s := by
  have plain (left : word.isQuoted = false) (right : other.isQuoted = false) :
      word = other ∧ r = s := by
    obtain ⟨same, rest⟩ :=
      append_stop_inj (isWordChar_of_mem left) (isWordChar_of_mem right) stops stops' h
    exact ⟨text_inj left right same, rest⟩
  cases word with
  | quoted content =>
    cases other with
    | quoted content' =>
      obtain ⟨rfl, rest⟩ := Text.quote_append_inj h
      exact ⟨rfl, rest⟩
    | digits m => exact absurd h (quote_ne rfl)
    | named name known => exact absurd h (quote_ne rfl)
  | digits n =>
    cases other with
    | quoted content => exact absurd h.symm (quote_ne rfl)
    | digits m => exact plain rfl rfl
    | named name known => exact plain rfl rfl
  | named name known =>
    cases other with
    | quoted content => exact absurd h.symm (quote_ne rfl)
    | digits m => exact plain rfl rfl
    | named name' known' => exact plain rfl rfl

/-- A word starts with a quote or a character of plain words. -/
theorem Word.text_cons (word : Word) :
    ∃ first rest, word.text.toList = first :: rest ∧
      (first = '"' ∨ isWordChar first = true) := by
  have plain (h : word.isQuoted = false) :
      ∃ first rest, word.text.toList = first :: rest ∧
        (first = '"' ∨ isWordChar first = true) := by
    cases letters : word.text.toList with
    | nil => exact absurd letters (text_ne_nil h)
    | cons first rest =>
      exact ⟨first, rest, rfl, .inr (isWordChar_of_mem h first (letters ▸ List.mem_cons_self))⟩
  cases word with
  | quoted content =>
    refine ⟨'"', content.toList.flatMap Text.escapeChar ++ ['"'], ?_, .inl rfl⟩
    rw [text, Text.quote, String.toList_ofList, Text.quoteChars]
  | digits n => exact plain rfl
  | named name known => exact plain rfl

/-- The characters that lists, chains and blocks start with start no word. -/
theorem Word.text_append_ne {word : Word} {first : Char} {r s : List Char}
    (other : first = '[' ∨ first = 'z' ∨ first = '\x7b') :
    word.text.toList ++ r ≠ first :: s := by
  obtain ⟨start, rest, letters, kind⟩ := word.text_cons
  rw [letters]
  intro same
  obtain ⟨rfl, _⟩ := List.cons.inj same
  rcases kind with rfl | wordChar
  · rcases other with h | h | h <;> exact absurd h (by decide)
  · rcases other with rfl | rfl | rfl <;> cases wordChar

/-! ## Frames -/

/-- What comes next is no further call. -/
def EndsChain (rest : List Char) : Prop := ∀ c ∈ rest.head?, c ≠ '.'

theorem endsChain_nil : EndsChain [] := by
  intro c inside
  cases inside

theorem Stops.endsChain {rest : List Char} (stops : Stops rest) : EndsChain rest := by
  intro c first
  rcases stops c first with rfl | rfl | rfl <;> decide

theorem endsChain_append {first rest : List Char} (ends : EndsChain first) (some : first ≠ []) :
    EndsChain (first ++ rest) := by
  cases first with
  | nil => exact absurd rfl some
  | cons c cs => exact ends

/-- A frame tells a block that goes on from one that ends. -/
structure Frame.Tells (frame : Frame) : Prop where
  opening : ∃ c rest, frame.opening = '\x7b' :: c :: rest ∧ c ≠ '\x7d'
  between : EndsChain frame.between ∧ frame.between ≠ []
  closing : EndsChain frame.closing ∧ frame.closing ≠ []
  apart (name : String) (r s : List Char) :
    frame.between ++ ((propertyName name).toList ++ r) ≠ frame.closing ++ s

theorem toList_indentation_succ (options : Options) (level : Nat) :
    (Doc.indentation options (level + 1)).toList =
      (Doc.indentation options level).toList ++ options.indent.toList := by
  rw [Doc.indentation, Doc.indentation, List.replicate_succ', String.toList_join,
    String.toList_join]
  simp

theorem propertyName_append_ne (name : String) (r s : List Char) :
    (propertyName name).toList ++ r ≠ '\x7d' :: s := by
  obtain ⟨first, rest, letters, kind⟩ := propertyName_cons name
  rw [letters]
  intro same
  obtain ⟨rfl, _⟩ := List.cons.inj same
  rcases kind with h | h <;> exact absurd h (by decide)

/-- The margin of a line in a block does not start as the end of the block does. A block on one line
has no margins. -/
def Options.SetsApart (options : Options) : Prop :=
  options.format = true → options.indent.toList.head? ≠ some '\x7d'

theorem Options.SetsApart.tells {options : Options} (apart : options.SetsApart) (level : Nat) :
    (options.frame level).Tells := by
  unfold Options.frame
  split
  next format =>
    have margin := apart format
    refine ⟨⟨'\n', _, rfl, by decide⟩, ⟨?_, List.cons_ne_nil _ _⟩, ⟨?_, List.cons_ne_nil _ _⟩, ?_⟩
    · rintro c ⟨⟩
      decide
    · rintro c ⟨⟩
      decide
    · intro name r s same
      simp only [toList_indentation_succ, List.append_assoc, List.cons_append, List.nil_append]
        at same
      have ends := List.append_cancel_left (List.cons.inj (List.cons.inj same).2).2
      cases letters : options.indent.toList with
      | nil =>
        rw [letters] at ends
        exact propertyName_append_ne name r s ends
      | cons first rest =>
        rw [letters] at ends margin
        exact margin (congrArg some (List.cons.inj ends).1)
  next format =>
    refine ⟨⟨' ', _, rfl, by decide⟩, ⟨?_, List.cons_ne_nil _ _⟩, ⟨?_, List.cons_ne_nil _ _⟩, ?_⟩
    · rintro c ⟨⟩
      decide
    · rintro c ⟨⟩
      decide
    · intro name r s same
      exact absurd (List.cons.inj same).1 (by decide)

/-! ## Terms are read in one way -/

namespace Term

variable {options : Options}

theorem braces_cons (tells : ∀ level, (options.frame level).Tells) (level : Nat)
    (entries : List (String × List Call)) :
    ∃ rest, braces options level entries = '\x7b' :: rest := by
  cases entries with
  | nil => exact ⟨_, rfl⟩
  | cons entry entries =>
    obtain ⟨c, rest, opening, _⟩ := (tells level).opening
    rw [braces, opening]
    exact ⟨_, rfl⟩

/-- The character that tells what a term is. Words have none. -/
def mark? : Term → Option Char
  | .word _ => none
  | .list _ => some '['
  | .chain _ => some 'z'
  | .block _ => some '\x7b'

/-- Texts that start alike are those of terms of one sort. -/
theorem mark?_eq (tells : ∀ level, (options.frame level).Tells) (level : Nat) {t u : Term}
    {r s : List Char} (h : chars options level t ++ r = chars options level u ++ s) :
    t.mark? = u.mark? := by
  have marked (t : Term) : (∃ w, t = .word w) ∨
      ∃ c rest, t.mark? = some c ∧ chars options level t = c :: rest ∧
        (c = '[' ∨ c = 'z' ∨ c = '\x7b') := by
    cases t with
    | word w => exact .inl ⟨w, rfl⟩
    | list items => exact .inr ⟨'[', _, rfl, rfl, .inl rfl⟩
    | chain calls => exact .inr ⟨'z', _, rfl, rfl, .inr (.inl rfl)⟩
    | block entries =>
      obtain ⟨rest, start⟩ := braces_cons tells level entries
      exact .inr ⟨'\x7b', rest, rfl, start, .inr (.inr rfl)⟩
  obtain ⟨w, rfl⟩ | ⟨c, cs, mark, start, kind⟩ := marked t
  · obtain ⟨v, rfl⟩ | ⟨d, ds, _, start', kind'⟩ := marked u
    · rfl
    · rw [start'] at h
      exact absurd h (Word.text_append_ne kind')
  · obtain ⟨v, rfl⟩ | ⟨d, ds, mark', start', _⟩ := marked u
    · rw [start] at h
      exact absurd h.symm (Word.text_append_ne kind)
    · rw [start, start'] at h
      rw [mark, mark', (List.cons.inj h).1]

/-- A term is not empty, and does not start as a list ends. -/
theorem chars_cons (tells : ∀ level, (options.frame level).Tells) (level : Nat) (t : Term) :
    ∃ first rest, chars options level t = first :: rest ∧ first ≠ ')' ∧ first ≠ ']' := by
  cases t with
  | word w =>
    obtain ⟨first, rest, letters, kind⟩ := w.text_cons
    refine ⟨first, rest, letters, ?_, ?_⟩ <;> rintro rfl <;>
      rcases kind with h | h <;> exact absurd h (by decide)
  | list items => exact ⟨'[', _, rfl, by decide, by decide⟩
  | chain calls => exact ⟨'z', _, rfl, by decide, by decide⟩
  | block entries =>
    obtain ⟨rest, start⟩ := braces_cons tells level entries
    exact ⟨'\x7b', rest, start, by decide, by decide⟩

theorem stops_more (level : Nat) (ts : List Term) {close : Char}
    (closes : close = ')' ∨ close = ']') (r : List Char) :
    Stops (more options level ts ++ close :: r) := by
  cases ts with
  | nil =>
    rintro c ⟨⟩
    exact .inr closes
  | cons t ts =>
    rintro c ⟨⟩
    exact .inl rfl

theorem endsChain_properties (tells : ∀ level, (options.frame level).Tells) (level : Nat)
    (entries : List (String × List Call)) (r : List Char) :
    EndsChain (properties options level entries ++ r) := by
  cases entries with
  | nil => exact endsChain_append (tells level).closing.1 (tells level).closing.2
  | cons entry entries =>
    rw [properties, List.append_assoc]
    exact endsChain_append (tells level).between.1 (tells level).between.2

mutual

/-- **Unique readability.** Terms whose texts start the same text, up to where a term may end, are
the same term. -/
theorem chars_append_inj (tells : ∀ level, (options.frame level).Tells) (level : Nat)
    (t u : Term) {r s : List Char} (stops : Stops r) (stops' : Stops s)
    (h : chars options level t ++ r = chars options level u ++ s) : t = u ∧ r = s := by
  match t, u, mark?_eq tells level h with
  | .word w, .word v, _ =>
    obtain ⟨rfl, rest⟩ := Word.text_append_inj stops stops' h
    exact ⟨rfl, rest⟩
  | .list items, .list others, _ =>
    simp only [chars, List.cons_append, List.append_assoc, List.nil_append] at h
    obtain ⟨rfl, rest⟩ :=
      commas_append_inj tells level items others (.inr rfl) (List.cons.inj h).2
    exact ⟨rfl, rest⟩
  | .chain calls, .chain others, _ =>
    obtain ⟨rfl, rest⟩ := links_append_inj tells level calls others stops.endsChain
      stops'.endsChain (List.cons.inj h).2
    exact ⟨rfl, rest⟩
  | .block entries, .block others, _ =>
    obtain ⟨rfl, rest⟩ := braces_append_inj tells level entries others h
    exact ⟨rfl, rest⟩

theorem commas_append_inj (tells : ∀ level, (options.frame level).Tells) (level : Nat)
    (ts us : List Term) {close : Char} (closes : close = ')' ∨ close = ']') {r s : List Char}
    (h : commas options level ts ++ close :: r = commas options level us ++ close :: s) :
    ts = us ∧ r = s := by
  match ts, us with
  | [], [] => exact ⟨rfl, (List.cons.inj h).2⟩
  | [], u :: us =>
    obtain ⟨first, rest, start, notParen, notBracket⟩ := chars_cons tells level u
    rw [commas, commas, start] at h
    have same := (List.cons.inj h).1
    rcases closes with rfl | rfl
    · exact absurd same.symm notParen
    · exact absurd same.symm notBracket
  | t :: ts, [] =>
    obtain ⟨first, rest, start, notParen, notBracket⟩ := chars_cons tells level t
    rw [commas, commas, start] at h
    have same := (List.cons.inj h).1
    rcases closes with rfl | rfl
    · exact absurd same notParen
    · exact absurd same notBracket
  | t :: ts, u :: us =>
    simp only [commas, List.append_assoc] at h
    obtain ⟨rfl, rest⟩ := chars_append_inj tells level t u (stops_more level ts closes r)
      (stops_more level us closes s) h
    obtain ⟨rfl, same⟩ := more_append_inj tells level ts us closes rest
    exact ⟨rfl, same⟩

theorem more_append_inj (tells : ∀ level, (options.frame level).Tells) (level : Nat)
    (ts us : List Term) {close : Char} (closes : close = ')' ∨ close = ']') {r s : List Char}
    (h : more options level ts ++ close :: r = more options level us ++ close :: s) :
    ts = us ∧ r = s := by
  have notComma : close ≠ ',' := by rcases closes with rfl | rfl <;> decide
  match ts, us with
  | [], [] => exact ⟨rfl, (List.cons.inj h).2⟩
  | [], u :: us => exact absurd (List.cons.inj h).1 notComma
  | t :: ts, [] => exact absurd (List.cons.inj h).1.symm notComma
  | t :: ts, u :: us =>
    simp only [more, List.cons_append, List.append_assoc] at h
    obtain ⟨rfl, rest⟩ := chars_append_inj tells level t u (stops_more level ts closes r)
      (stops_more level us closes s) (List.cons.inj (List.cons.inj h).2).2
    obtain ⟨rfl, same⟩ := more_append_inj tells level ts us closes rest
    exact ⟨rfl, same⟩

theorem links_append_inj (tells : ∀ level, (options.frame level).Tells) (level : Nat)
    (cs ds : List Call) {r s : List Char} (ends : EndsChain r) (othersEnd : EndsChain s)
    (h : links options level cs ++ r = links options level ds ++ s) : cs = ds ∧ r = s := by
  match cs, ds with
  | [], [] => exact ⟨rfl, h⟩
  | [], .mk name arguments :: ds =>
    subst h
    exact absurd rfl (ends '.' rfl)
  | .mk name arguments :: cs, [] =>
    subst h
    exact absurd rfl (othersEnd '.' rfl)
  | .mk name arguments :: cs, .mk name' arguments' :: ds =>
    simp only [links, List.cons_append, List.append_assoc] at h
    obtain ⟨names, afterName⟩ := Text.append_mark_inj name.ends name'.ends (List.cons.inj h).2
    obtain ⟨rfl, afterCall⟩ :=
      commas_append_inj tells level arguments arguments' (.inl rfl) afterName
    obtain ⟨rfl, same⟩ := links_append_inj tells level cs ds ends othersEnd afterCall
    cases MethodName.ext (String.toList_inj.mp names)
    exact ⟨rfl, same⟩

theorem braces_append_inj (tells : ∀ level, (options.frame level).Tells) (level : Nat)
    (es fs : List (String × List Call)) {r s : List Char}
    (h : braces options level es ++ r = braces options level fs ++ s) : es = fs ∧ r = s := by
  match es, fs with
  | [], [] => exact ⟨rfl, (List.cons.inj (List.cons.inj h).2).2⟩
  | [], (name, calls) :: fs =>
    obtain ⟨c, rest, opening, other⟩ := (tells level).opening
    rw [braces, braces, opening] at h
    exact absurd (List.cons.inj (List.cons.inj h).2).1.symm other
  | (name, calls) :: es, [] =>
    obtain ⟨c, rest, opening, other⟩ := (tells level).opening
    rw [braces, braces, opening] at h
    exact absurd (List.cons.inj (List.cons.inj h).2).1 other
  | (name, calls) :: es, (name', calls') :: fs =>
    simp only [braces, List.append_assoc, List.cons_append] at h
    obtain ⟨rfl, afterName⟩ := propertyName_append_inj (List.append_cancel_left h)
    obtain ⟨rfl, afterValue⟩ := links_append_inj tells (level + 1) calls calls'
      (endsChain_properties tells level es r) (endsChain_properties tells level fs s)
      (List.cons.inj (List.cons.inj afterName).2).2
    obtain ⟨rfl, same⟩ := properties_append_inj tells level es fs afterValue
    exact ⟨rfl, same⟩

theorem properties_append_inj (tells : ∀ level, (options.frame level).Tells) (level : Nat)
    (es fs : List (String × List Call)) {r s : List Char}
    (h : properties options level es ++ r = properties options level fs ++ s) :
    es = fs ∧ r = s := by
  match es, fs with
  | [], [] => exact ⟨rfl, List.append_cancel_left h⟩
  | [], (name, calls) :: fs =>
    simp only [properties, List.append_assoc] at h
    exact absurd h.symm ((tells level).apart name _ _)
  | (name, calls) :: es, [] =>
    simp only [properties, List.append_assoc] at h
    exact absurd h ((tells level).apart name _ _)
  | (name, calls) :: es, (name', calls') :: fs =>
    simp only [properties, List.append_assoc, List.cons_append] at h
    obtain ⟨rfl, afterName⟩ := propertyName_append_inj (List.append_cancel_left h)
    obtain ⟨rfl, afterValue⟩ := links_append_inj tells (level + 1) calls calls'
      (endsChain_properties tells level es r) (endsChain_properties tells level fs s)
      (List.cons.inj (List.cons.inj afterName).2).2
    obtain ⟨rfl, same⟩ := properties_append_inj tells level es fs afterValue
    exact ⟨rfl, same⟩

end

end Term

end SchemaSource
