import SchemaSource.Json
/-!
Reading JSON text. The grammar is the strict one: no comments, no superfluous commas or zeros, no
lone surrogates, no number beyond the doubles. Containers nest at most 127 deep.

Assumed of the library that does this: it keeps to the grammar of RFC 8259 and to that depth; an
integer that fits 64 bits, signed or not, stays an integer, and any other number becomes a double;
members keep their order, and a name that comes again keeps its place and changes its value.
-/
namespace SchemaSource.Json.Reader

/-- What is left of a text after something has been read from it. -/
abbrev Rest (text : List Char) := { rest : List Char // rest.length < text.length }

/-- A reading of a longer text, seen from a shorter start. -/
def Rest.weaken {shorter longer : List Char} (rest : Rest shorter)
    (h : shorter.length ≤ longer.length) : Rest longer :=
  ⟨rest.1, Nat.lt_of_lt_of_le rest.2 h⟩

def isBlank (c : Char) : Bool := c = ' ' || c = '\t' || c = '\n' || c = '\r'

def skipBlanks (text : List Char) : List Char := text.dropWhile isBlank

theorem length_dropWhile_le (p : Char → Bool) (text : List Char) :
    (text.dropWhile p).length ≤ text.length :=
  (List.dropWhile_sublist p).length_le

theorem length_skipBlanks_le (text : List Char) : (skipBlanks text).length ≤ text.length :=
  length_dropWhile_le isBlank text

def hexValue? (c : Char) : Option Nat :=
  if '0' ≤ c ∧ c ≤ '9' then some (c.toNat - '0'.toNat)
  else if 'a' ≤ c ∧ c ≤ 'f' then some (c.toNat - 'a'.toNat + 10)
  else if 'A' ≤ c ∧ c ≤ 'F' then some (c.toNat - 'A'.toNat + 10)
  else none

def unit? (a b c d : Char) : Option Nat := do
  return (((← hexValue? a) * 16 + (← hexValue? b)) * 16 + (← hexValue? c)) * 16 + (← hexValue? d)

def escaped? (c : Char) : Option Char :=
  if c = '"' then some '"'
  else if c = '\\' then some '\\'
  else if c = '/' then some '/'
  else if c = 'b' then some '\x08'
  else if c = 'f' then some '\x0c'
  else if c = 'n' then some '\n'
  else if c = 'r' then some '\r'
  else if c = 't' then some '\t'
  else none

/-- The rest of a string literal after its opening quote. Characters read so far stand reversed.
A high surrogate needs a low one right after it. -/
def stringTail? (read : List Char) : List Char → Option (List Char × List Char)
  | [] => none
  | '"' :: rest => some (read.reverse, rest)
  | '\\' :: 'u' :: a :: b :: c :: d :: rest =>
    match unit? a b c d with
    | none => none
    | some unit =>
      if 0xD800 ≤ unit ∧ unit < 0xDC00 then
        match rest with
        | '\\' :: 'u' :: e :: f :: g :: h :: rest =>
          match unit? e f g h with
          | none => none
          | some low =>
            if 0xDC00 ≤ low ∧ low < 0xE000 then
              stringTail?
                (Char.ofNat (0x10000 + (unit - 0xD800) * 0x400 + (low - 0xDC00)) :: read) rest
            else none
        | _ => none
      else if 0xDC00 ≤ unit ∧ unit < 0xE000 then none
      else stringTail? (Char.ofNat unit :: read) rest
  | '\\' :: c :: rest =>
    match escaped? c with
    | some e => stringTail? (e :: read) rest
    | none => none
  | c :: rest => if c.toNat < 32 then none else stringTail? (c :: read) rest

theorem length_stringTail? {read text value rest : List Char}
    (h : stringTail? read text = some (value, rest)) : rest.length < text.length := by
  fun_induction stringTail? read text <;> simp_all <;> omega

def decimalValue (digits : List Char) : Nat :=
  digits.foldl (fun n c => n * 10 + (c.toNat - '0'.toNat)) 0

/-- An integer part has no superfluous zero in front. -/
def integerPart? (text : List Char) : Option (List Char × List Char) :=
  match text with
  | '0' :: rest => some (['0'], rest)
  | c :: rest =>
    if c.isDigit then some (c :: rest.takeWhile Char.isDigit, rest.dropWhile Char.isDigit)
    else none
  | [] => none

/-- The digits after a point, and none where there is no point. -/
def fraction? (text : List Char) : Option (List Char × List Char) :=
  match text with
  | '.' :: rest =>
    let digits := rest.takeWhile Char.isDigit
    if digits.isEmpty then none else some (digits, rest.dropWhile Char.isDigit)
  | rest => some ([], rest)

def exponentDigits? (negative : Bool) (text : List Char) : Option (Int × List Char) :=
  let digits := text.takeWhile Char.isDigit
  if digits.isEmpty then none
  else
    let value : Int := decimalValue digits
    some (if negative then -value else value, text.dropWhile Char.isDigit)

/-- An exponent; there is none where no `e` follows. -/
def exponent? (text : List Char) : Option (Option Int × List Char) :=
  match text with
  | c :: rest =>
    if c = 'e' ∨ c = 'E' then
      match rest with
      | '-' :: rest => (exponentDigits? true rest).map fun (e, rest) => (some e, rest)
      | '+' :: rest => (exponentDigits? false rest).map fun (e, rest) => (some e, rest)
      | rest => (exponentDigits? false rest).map fun (e, rest) => (some e, rest)
    else some (none, c :: rest)
  | [] => some (none, [])

/-- The value of a numeral: an integer when it is spelled as one and fits 64 bits, signed or not.
Negative zero is a double. A value too large for a double is refused.

A double is the nearest one to the decimal. The library promises its best effort only, so for
numerals of many digits or large exponents it may answer with a neighbor of that double. Texts are
assumed to spell numbers on which the two agree. -/
def numberValue? (negative : Bool) (whole fraction : List Char) (exponent : Option Int) :
    Option Json :=
  let digits := decimalValue (whole ++ fraction)
  let asDouble :=
    Double.ofDecimal negative digits (exponent.getD 0 - fraction.length)
  if fraction.isEmpty ∧ exponent = none ∧ !(negative ∧ digits = 0)
      ∧ digits ≤ (if negative then 2 ^ 63 else 2 ^ 64 - 1) then
    some (.int (if negative then -(digits : Int) else digits))
  else if asDouble.isFinite then some (.double asDouble)
  else none

def unsigned? (negative : Bool) (text : List Char) : Option (Json × List Char) := do
  let (whole, rest) ← integerPart? text
  let (fraction, rest) ← fraction? rest
  let (exponent, rest) ← exponent? rest
  let value ← numberValue? negative whole fraction exponent
  return (value, rest)

theorem length_integerPart? {text digits rest : List Char}
    (h : integerPart? text = some (digits, rest)) : rest.length < text.length := by
  unfold integerPart? at h
  split at h
  · simp only [Option.some.injEq, Prod.mk.injEq] at h
    simp [← h.2]
  · split at h
    · simp only [Option.some.injEq, Prod.mk.injEq] at h
      have := length_dropWhile_le Char.isDigit (by assumption : List Char)
      rename_i tail _ _
      have := length_dropWhile_le Char.isDigit tail
      simp only [← h.2, List.length_cons]
      omega
    · simp at h
  · simp at h

theorem length_fraction? {text digits rest : List Char}
    (h : fraction? text = some (digits, rest)) : rest.length ≤ text.length := by
  unfold fraction? at h
  split at h
  · rename_i tail
    simp only [Option.ite_none_left_eq_some, Option.some.injEq, Prod.mk.injEq] at h
    have := length_dropWhile_le Char.isDigit tail
    simp only [← h.2.2, List.length_cons]
    omega
  · simp only [Option.some.injEq, Prod.mk.injEq] at h
    simp [h.2]

theorem length_exponentDigits? {negative : Bool} {text rest : List Char} {value : Int}
    (h : exponentDigits? negative text = some (value, rest)) : rest.length ≤ text.length := by
  simp only [exponentDigits?, Option.ite_none_left_eq_some, Option.some.injEq,
    Prod.mk.injEq] at h
  rw [← h.2.2]
  exact length_dropWhile_le Char.isDigit text

theorem length_exponent? {text rest : List Char} {value : Option Int}
    (h : exponent? text = some (value, rest)) : rest.length ≤ text.length := by
  unfold exponent? at h
  split at h
  · split at h
    · split at h <;>
      · simp only [Option.map_eq_some_iff, Prod.mk.injEq, Prod.exists] at h
        obtain ⟨_, _, hd, _, rfl⟩ := h
        have := length_exponentDigits? hd
        simp only [List.length_cons] at *
        omega
    · simp only [Option.some.injEq, Prod.mk.injEq] at h
      simp [h.2]
  · simp only [Option.some.injEq, Prod.mk.injEq] at h
    simp [← h.2]

theorem length_unsigned? {negative : Bool} {text rest : List Char} {value : Json}
    (h : unsigned? negative text = some (value, rest)) : rest.length < text.length := by
  simp only [unsigned?, Option.bind_eq_bind, Option.bind_eq_some_iff, Prod.exists,
    Option.pure_def, Option.some.injEq, Prod.mk.injEq] at h
  obtain ⟨_, _, hw, _, _, hf, _, _, he, _, _, _, rfl⟩ := h
  have := length_integerPart? hw
  have := length_fraction? hf
  have := length_exponent? he
  omega

/-- The text after a word, if it starts with that word. -/
def word? (word text : List Char) : Option (List Char) :=
  match word, text with
  | [], rest => some rest
  | w :: word, c :: text => if w = c then word? word text else none
  | _ :: _, [] => none

theorem length_word? {word text rest : List Char} (h : word? word text = some rest) :
    rest.length ≤ text.length := by
  fun_induction word? word text <;> simp_all
  omega

def scalar? : List Char → Option (Json × List Char)
  | 'n' :: text => (word? ['u', 'l', 'l'] text).map (.null, ·)
  | 't' :: text => (word? ['r', 'u', 'e'] text).map (.bool true, ·)
  | 'f' :: text => (word? ['a', 'l', 's', 'e'] text).map (.bool false, ·)
  | '"' :: text => (stringTail? [] text).map fun (value, rest) => (.string (.ofList value), rest)
  | '-' :: text => unsigned? true text
  | text => unsigned? false text

theorem length_scalar? {text rest : List Char} {value : Json}
    (h : scalar? text = some (value, rest)) : rest.length < text.length := by
  unfold scalar? at h
  split at h
  iterate 3
    · simp only [Option.map_eq_some_iff, Prod.mk.injEq] at h
      obtain ⟨_, hw, _, rfl⟩ := h
      have := length_word? hw
      simp only [List.length_cons]
      omega
  · simp only [Option.map_eq_some_iff, Prod.mk.injEq, Prod.exists] at h
    obtain ⟨_, _, hs, _, rfl⟩ := h
    have := length_stringTail? hs
    simp only [List.length_cons]
    omega
  · have := length_unsigned? h
    simp only [List.length_cons]
    omega
  · exact length_unsigned? h

/-- The name of a member with the colon after it. -/
def name? : List Char → Option (String × List Char)
  | '"' :: text =>
    match stringTail? [] text with
    | some (name, rest) =>
      match skipBlanks rest with
      | ':' :: rest => some (.ofList name, skipBlanks rest)
      | _ => none
    | none => none
  | _ => none

theorem length_name? {text rest : List Char} {name : String}
    (h : name? text = some (name, rest)) : rest.length < text.length := by
  unfold name? at h
  split at h
  · split at h
    · rename_i after hs
      split at h
      · rename_i afterColon hb
        have := length_stringTail? hs
        have hle := length_skipBlanks_le after
        have := length_skipBlanks_le afterColon
        simp only [Option.some.injEq, Prod.mk.injEq] at h
        simp only [hb, ← h.2, List.length_cons] at *
        omega
      · simp at h
    · simp at h
  · simp at h

mutual

/-- A value at the start of a text, with room for `depth` containers around each other. -/
def value? (depth : Nat) (text : List Char) : Option (Json × Rest text) :=
  match text with
  | '[' :: text =>
    match depth with
    | 0 => none
    | depth + 1 =>
      match h : skipBlanks text with
      | ']' :: rest =>
        some (.array [], ⟨rest, by have := length_skipBlanks_le text; simp [h] at this ⊢; omega⟩)
      | start =>
        have := length_skipBlanks_le text
        match items? depth start with
        | some (items, rest) => some (.array items, rest.weaken (by simp [← h]; omega))
        | none => none
  | '\x7b' :: text =>
    match depth with
    | 0 => none
    | depth + 1 =>
      match h : skipBlanks text with
      | '\x7d' :: rest =>
        some (.object [], ⟨rest, by have := length_skipBlanks_le text; simp [h] at this ⊢; omega⟩)
      | start =>
        have := length_skipBlanks_le text
        match members? depth [] start with
        | some (members, rest) => some (.object members, rest.weaken (by simp [← h]; omega))
        | none => none
  | text =>
    match h : scalar? text with
    | some (value, rest) => some (value, ⟨rest, length_scalar? h⟩)
    | none => none
termination_by 2 * text.length
decreasing_by all_goals (simp only [List.length_cons, ← h] at *; omega)

/-- The items of an array up to its closing bracket. -/
def items? (depth : Nat) (text : List Char) : Option (List Json × Rest text) :=
  match value? depth text with
  | none => none
  | some (item, rest) =>
    have hle := length_skipBlanks_le rest.1
    match h : skipBlanks rest.1 with
    | ']' :: rest' => some ([item], ⟨rest', by have := rest.2; simp [h] at hle; omega⟩)
    | ',' :: rest' =>
      match items? depth (skipBlanks rest') with
      | some (items, last) =>
        some (item :: items, last.weaken (by
          have := rest.2; have := length_skipBlanks_le rest'; simp [h] at hle; omega))
      | none => none
    | _ => none
termination_by 2 * text.length + 1
decreasing_by
  · omega
  · have := rest.2
    have := length_skipBlanks_le rest'
    simp only [h, List.length_cons] at hle
    omega

/-- The members of an object up to its closing brace, added to those read before. -/
def members? (depth : Nat) (read : List (String × Json)) (text : List Char) :
    Option (List (String × Json) × Rest text) :=
  match hk : name? text with
  | none => none
  | some (key, start) =>
    match value? depth start with
    | none => none
    | some (value, rest) =>
      let read := setMember key value read
      have hle := length_skipBlanks_le rest.1
      match h : skipBlanks rest.1 with
      | '\x7d' :: rest' =>
        some (read, ⟨rest', by have := length_name? hk; have := rest.2; simp [h] at hle; omega⟩)
      | ',' :: rest' =>
        match members? depth read (skipBlanks rest') with
        | some (members, last) =>
          some (members, last.weaken (by
            have := length_name? hk; have := rest.2; have := length_skipBlanks_le rest'
            simp [h] at hle; omega))
        | none => none
      | _ => none
termination_by 2 * text.length + 1
decreasing_by
  · have := length_name? hk
    omega
  · have := length_name? hk
    have := rest.2
    have := length_skipBlanks_le rest'
    simp only [h, List.length_cons] at hle
    omega

end

def read? (text : List Char) : Option Json :=
  match value? 127 (skipBlanks text) with
  | some (value, rest) => if (skipBlanks rest.1).isEmpty then some value else none
  | none => none

end SchemaSource.Json.Reader

namespace SchemaSource.Json

def ofText? (text : String) : Option Json := Reader.read? text.toList

end SchemaSource.Json
