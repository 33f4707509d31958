import SchemaSource.Json.Reader
import SchemaSource.Toml
/-!
Reading documents. Values are strings of all four kinds, integers, truth values, arrays and tables
in braces. Nesting is bounded, which bounds the recursion on values. Other steps are counted against
a size, and one more than the length of the text is enough: each of them consumes a character.

Assumed of the library that does this: it reads TOML 1.1, with its escapes of two digits and its
tables in braces over several lines; arrays and tables nest at most 80 deep; and a line end in a
string stays as it is written. No setting is a number with a fraction or a date, so the values of
these two kinds are left out, and documents are assumed to have none.
-/
namespace SchemaSource.Toml.Reader

open Json.Reader (hexValue?)

/-- Arrays and tables in braces nest at most this deep, and a key has at most this many names. -/
def nestingLimit : Nat := 80

def isSpace (c : Char) : Bool := c = ' ' || c = '\t'

def skipSpaces (text : List Char) : List Char := text.dropWhile isSpace

/-- Controls other than the tab have to be escaped. -/
def isPlain (c : Char) : Bool := c = '\t' || (0x20 ≤ c.toNat && c.toNat != 0x7F)

def newline? : List Char → Option (List Char)
  | '\n' :: rest => some rest
  | '\r' :: '\n' :: rest => some rest
  | _ => none

/-- What follows a comment, which may be missing. It reaches to the end of the line. -/
def comment? (text : List Char) : Option (List Char) :=
  match text with
  | '#' :: rest =>
    let after := rest.dropWhile isPlain
    if after.isEmpty || (newline? after).isSome then some after else none
  | text => some text

/-- What follows the end of a line on which nothing more stands. -/
def lineEnd? (text : List Char) : Option (List Char) := do
  let rest ← comment? (skipSpaces text)
  if rest.isEmpty then some [] else newline? rest

def blanks? : Nat → List Char → Option (List Char)
  | 0, _ => none
  | n + 1, text => do
    let rest ← comment? (skipSpaces text)
    match newline? rest with
    | some rest => blanks? n rest
    | none => some rest

/-! Strings. What has been read of one stands reversed. -/

def numbered? (count : Nat) (text : List Char) : Option (Char × List Char) := do
  let digits ← (text.take count).mapM hexValue?
  let n := digits.foldl (fun n digit => 16 * n + digit) 0
  if digits.length = count ∧ n.isValidChar then some (Char.ofNat n, text.drop count) else none

/-- The character of an escape, of which the backslash has been read. -/
def escaped? : List Char → Option (Char × List Char)
  | 'b' :: rest => some ('\x08', rest)
  | 'e' :: rest => some ('\x1b', rest)
  | 't' :: rest => some ('\t', rest)
  | 'n' :: rest => some ('\n', rest)
  | 'f' :: rest => some ('\x0c', rest)
  | 'r' :: rest => some ('\r', rest)
  | '"' :: rest => some ('"', rest)
  | '\\' :: rest => some ('\\', rest)
  | 'x' :: rest => numbered? 2 rest
  | 'u' :: rest => numbered? 4 rest
  | 'U' :: rest => numbered? 8 rest
  | _ => none

def basicTail? : Nat → List Char → List Char → Option (List Char × List Char)
  | 0, _, _ => none
  | _ + 1, read, '"' :: rest => some (read, rest)
  | n + 1, read, '\\' :: rest => do
    let (c, rest) ← escaped? rest
    basicTail? n (c :: read) rest
  | n + 1, read, c :: rest => if isPlain c then basicTail? n (c :: read) rest else none
  | _ + 1, _, [] => none

def literalTail? (read : List Char) : List Char → Option (List Char × List Char)
  | [] => none
  | '\x27' :: rest => some (read, rest)
  | c :: rest => if isPlain c then literalTail? (c :: read) rest else none

/-- Up to two of the quotes after a closing mark still belong to the string. -/
def closing (quote : Char) (read text : List Char) : List Char × List Char :=
  match text with
  | a :: b :: rest =>
    if a = quote ∧ b = quote then (quote :: quote :: read, rest)
    else if a = quote then (quote :: read, b :: rest)
    else (read, text)
  | [a] => if a = quote then (quote :: read, []) else (read, text)
  | [] => (read, [])

def skipLines : List Char → List Char
  | '\n' :: rest => skipLines rest
  | '\r' :: '\n' :: rest => skipLines rest
  | c :: rest => if isSpace c then skipLines rest else c :: rest
  | [] => []

/-- What follows an escaped line end, with all blank space after it. -/
def joined? (text : List Char) : Option (List Char) :=
  (newline? (skipSpaces text)).map skipLines

/-- The rest of a string of many lines with escapes. It keeps its line ends as they are. -/
def longBasicTail? : Nat → List Char → List Char → Option (List Char × List Char)
  | 0, _, _ => none
  | _ + 1, read, '"' :: '"' :: '"' :: rest => some (closing '"' read rest)
  | n + 1, read, '\\' :: rest =>
    match joined? rest with
    | some rest => longBasicTail? n read rest
    | none => do
      let (c, rest) ← escaped? rest
      longBasicTail? n (c :: read) rest
  | n + 1, read, '\r' :: '\n' :: rest => longBasicTail? n ('\n' :: '\r' :: read) rest
  | n + 1, read, c :: rest =>
    if c = '\n' || isPlain c then longBasicTail? n (c :: read) rest else none
  | _ + 1, _, [] => none

def longLiteralTail? (read : List Char) : List Char → Option (List Char × List Char)
  | [] => none
  | '\x27' :: '\x27' :: '\x27' :: rest => some (closing '\x27' read rest)
  | '\r' :: '\n' :: rest => longLiteralTail? ('\n' :: '\r' :: read) rest
  | c :: rest => if c = '\n' || isPlain c then longLiteralTail? (c :: read) rest else none

/-- A line end right after the opening mark is no part of the string. -/
def afterOpening (text : List Char) : List Char := (newline? text).getD text

/-- The characters of a string on one line, reversed. -/
def shortString? (size : Nat) (text : List Char) : Option (List Char × List Char) :=
  match text with
  | '"' :: rest => basicTail? size [] rest
  | '\x27' :: rest => literalTail? [] rest
  | _ => none

/-- The characters of any string, reversed. -/
def string? (size : Nat) (text : List Char) : Option (List Char × List Char) :=
  match text with
  | '"' :: '"' :: '"' :: rest => longBasicTail? size [] (afterOpening rest)
  | '\x27' :: '\x27' :: '\x27' :: rest => longLiteralTail? [] (afterOpening rest)
  | text => shortString? size text

/-! Names. -/

def isBare (c : Char) : Bool := c.isAlphanum || c = '_' || c = '-'

def name? (size : Nat) (text : List Char) : Option (String × List Char) :=
  match shortString? size text with
  | some (read, rest) => some (String.ofList read.reverse, rest)
  | none =>
    let name := text.takeWhile isBare
    if name.isEmpty then none else some (String.ofList name, text.dropWhile isBare)

/-- Some names, so many at most, with points between them: the path to a table, and a name in it. -/
def names? (size : Nat) : Nat → List Char → Option (List String × String × List Char)
  | 0, _ => none
  | n + 1, text => do
    let (name, rest) ← name? size (skipSpaces text)
    match skipSpaces rest with
    | '.' :: rest => do
      let (path, last, rest) ← names? size n rest
      return (name :: path, last, rest)
    | rest => return ([], name, rest)

def key? (size : Nat) : List Char → Option (List String × String × List Char) :=
  names? size nestingLimit

/-! Values. -/

/-- The number that digits spell, with single underscores between them. -/
def digits? (base : Nat) (value : Nat) (afterDigit : Bool) : List Char → Option Nat
  | [] => if afterDigit then some value else none
  | '_' :: rest => if afterDigit then digits? base value false rest else none
  | c :: rest => do
    let digit ← hexValue? c
    if digit < base then digits? base (base * value + digit) true rest else none

/-- A decimal number does not start with a superfluous zero. -/
def decimal? (digits : List Char) : Option Nat :=
  match digits with
  | '0' :: _ :: _ => none
  | digits => digits? 10 0 false digits

def integer? : List Char → Option Int
  | '0' :: 'x' :: digits => (digits? 16 0 false digits).map Int.ofNat
  | '0' :: 'o' :: digits => (digits? 8 0 false digits).map Int.ofNat
  | '0' :: 'b' :: digits => (digits? 2 0 false digits).map Int.ofNat
  | '-' :: digits => (decimal? digits).map fun n => -(n : Int)
  | '+' :: digits => (decimal? digits).map Int.ofNat
  | digits => (decimal? digits).map Int.ofNat

def isWord (c : Char) : Bool := isBare c || c = '+' || c = '.' || c = ':'

def scalar? (size : Nat) (text : List Char) : Option (Value × List Char) :=
  match string? size text with
  | some (read, rest) => some (.string (String.ofList read.reverse), rest)
  | none =>
    let word := text.takeWhile isWord
    let rest := text.dropWhile isWord
    if word = "true".toList then some (.bool true, rest)
    else if word = "false".toList then some (.bool false, rest)
    else (integer? word).map fun n => (.integer n, rest)

/-- The rest of a list up to its closing mark. Commas stand between its elements, and one may stand
after the last. -/
def elements? {α : Type} (element? : List Char → Option (α × List Char)) (close : Char) :
    Nat → List Char → Option (List α × List Char)
  | 0, _ => none
  | n + 1, text => do
    let text ← blanks? (n + 1) text
    if text.head? = some close then
      return ([], text.tail)
    else
      let (element, rest) ← element? text
      let rest ← blanks? (n + 1) rest
      if rest.head? = some ',' then
        let (elements, rest) ← elements? element? close n rest.tail
        return (element :: elements, rest)
      else if rest.head? = some close then
        return ([element], rest.tail)
      else none

/-- An assignment between braces, where a value may stand on a later line than its key. -/
def assignment? (value? : List Char → Option (Value × List Char)) (size : Nat)
    (text : List Char) : Option ((List String × String × Value) × List Char) := do
  let (path, name, rest) ← key? size text
  match ← blanks? size rest with
  | '=' :: rest =>
    let (value, rest) ← value? (← blanks? size rest)
    return ((path, name, value), rest)
  | _ => none

/-- A value in which arrays and tables nest at most so deep. -/
def value? (size : Nat) : Nat → List Char → Option (Value × List Char)
  | depth + 1, '[' :: rest => do
    let (items, rest) ← elements? (value? size depth) ']' size rest
    return (.array items, rest)
  | depth + 1, '\x7b' :: rest => do
    let (assignments, rest) ← elements? (assignment? (value? size depth) size) '\x7d' size rest
    return (.table .complete (← ofAssignments? assignments), rest)
  | _, text => scalar? size text

/-! Lines. -/

/-- The line at the start of a text that is not blank. -/
def line? (size : Nat) (text : List Char) : Option (Line × List Char) :=
  match text with
  | '[' :: rest => do
    let (path, name, rest) ← key? size rest
    match rest with
    | ']' :: rest => return (.header path name, ← lineEnd? rest)
    | _ => none
  | text => do
    let (path, name, rest) ← key? size text
    match rest with
    | '=' :: rest =>
      let (value, rest) ← value? size nestingLimit (skipSpaces rest)
      return (.assign path name value, ← lineEnd? rest)
    | _ => none

def lines? : Nat → List Char → Option (List Line)
  | 0, _ => none
  | n + 1, text => do
    let text ← blanks? (n + 1) text
    if text.isEmpty then return []
    else
      let (line, rest) ← line? (n + 1) text
      return line :: (← lines? n rest)

/-- A mark of byte order in front of a text is skipped. -/
def skipMark : List Char → List Char
  | '\ufeff' :: rest => rest
  | text => text

end Reader

def ofText? (text : String) : Option Entries := do
  let text := Reader.skipMark text.toList
  ofLines? (← Reader.lines? (text.length + 1) text)

end SchemaSource.Toml
