import SchemaSource.Doc
import SchemaSource.Numeral
import SchemaSource.Text.Blank
/-!
The language of the written arguments, as the reader of a generated module understands it. Its
expressions are those of ECMAScript that literals, names, properties, parentheses, the minus sign
and the power operator make up.
-/
namespace SchemaSource.Script

/-! ## Words -/

/-- White space and line ends. -/
def isBlank (c : Char) : Bool := (Text.isBlank c && c != '\x85') || c == '\uFEFF'

/-- The characters of a name after its first. -/
def isNamePart (c : Char) : Bool := isNameStart c || c.isDigit

/-- Operators and punctuation. -/
inductive Mark where
  | opening
  | closing
  | dot
  | minus
  | power
  deriving DecidableEq, Repr

inductive Token where
  | literal (value : Value)
  | name (text : String)
  | mark (mark : Mark)

/-- The number nearest to a decimal. -/
def nearest (d : Double.Decimal) : Double :=
  .ofRatio false (d.digits * 10 ^ d.exponent.toNat) (10 ^ (-d.exponent).toNat)

/-- Digits without a value cannot follow a letter that announces an exponent. -/
def digits? (text : List Char) : Option (Nat × List Char) :=
  if text.takeWhile Char.isDigit = [] then none
  else some (Nat.ofDigitChars 10 (text.takeWhile Char.isDigit) 0, text.dropWhile Char.isDigit)

/-- The exponent at the start of a text, which is zero where no letter announces one. -/
def exponent? : List Char → Option (Int × List Char)
  | 'e' :: rest | 'E' :: rest =>
    match rest with
    | '-' :: rest => (digits? rest).map fun (n, rest) => (-(n : Int), rest)
    | '+' :: rest => (digits? rest).map fun (n, rest) => ((n : Int), rest)
    | rest => (digits? rest).map fun (n, rest) => ((n : Int), rest)
  | text => some (0, text)

/-- A number or, with its suffix, a big integer. No zero may stand before another digit. -/
def number? (text : List Char) : Option (Value × List Char) :=
  let whole := text.takeWhile Char.isDigit
  if whole.head? = some '0' ∧ whole ≠ ['0'] then none
  else
    match text.dropWhile Char.isDigit with
    | 'n' :: rest =>
      if whole = [] then none else some (.bigint (Nat.ofDigitChars 10 whole 0), rest)
    | '.' :: rest =>
      let fraction := rest.takeWhile Char.isDigit
      if whole = [] ∧ fraction = [] then none
      else
        (exponent? (rest.dropWhile Char.isDigit)).map fun (x, rest) =>
          (.number (nearest ⟨Nat.ofDigitChars 10 (whole ++ fraction) 0, x - fraction.length⟩), rest)
    | rest =>
      if whole = [] then none
      else
        (exponent? rest).map fun (x, rest) =>
          (.number (nearest ⟨Nat.ofDigitChars 10 whole 0, x⟩), rest)

/-- The character of an escape with one letter. Digits and the letters of longer escapes make none,
and a line end joins two lines instead. -/
def escaped? : Char → Option Char
  | 'b' => some '\x08'
  | 't' => some '\t'
  | 'n' => some '\n'
  | 'v' => some '\x0b'
  | 'f' => some '\x0c'
  | 'r' => some '\r'
  | c => if c.isDigit ∨ c ∈ ['x', 'u', '\n', '\r', '\u2028', '\u2029'] then none else some c

def hexDigit? (c : Char) : Option Nat :=
  if c.isDigit then some (c.toNat - 48)
  else if 'a' ≤ c ∧ c ≤ 'f' then some (c.toNat - 87)
  else if 'A' ≤ c ∧ c ≤ 'F' then some (c.toNat - 55)
  else none

/-- The character of four hexadecimal digits. Halves of a pair are no characters. -/
def codePoint? (digits : List Char) : Option Char := do
  let values ← digits.mapM hexDigit?
  let n := values.foldl (16 * · + ·) 0
  if n.isValidChar then some (Char.ofNat n) else none

/-- The characters up to the closing quote. A line end must be escaped. -/
def letters? (quote : Char) : List Char → Option (List Char × List Char)
  | '\\' :: 'u' :: a :: b :: c :: d :: rest => do
    let letter ← codePoint? [a, b, c, d]
    let (letters, rest) ← letters? quote rest
    return (letter :: letters, rest)
  | '\\' :: c :: rest => do
    let letter ← escaped? c
    let (letters, rest) ← letters? quote rest
    return (letter :: letters, rest)
  | c :: rest =>
    if c = quote then some ([], rest)
    else if c ∈ ['\\', '\n', '\r'] then none
    else do
      let (letters, rest) ← letters? quote rest
      return (c :: letters, rest)
  | [] => none

/-- The longest mark at the start of a text. -/
def mark? : List Char → Option (Mark × List Char)
  | '(' :: rest => some (.opening, rest)
  | ')' :: rest => some (.closing, rest)
  | '.' :: rest => some (.dot, rest)
  | '-' :: rest =>
    if rest.head? = some '-' ∨ rest.head? = some '=' then none else some (.minus, rest)
  | '*' :: '*' :: rest => if rest.head? = some '=' then none else some (.power, rest)
  | _ => none

/-- The longest token at the start of a text. No name and no digit may follow a number at once. -/
def token? (text : List Char) : Option (Token × List Char) :=
  match text with
  | [] => none
  | c :: rest =>
    if c.isDigit ∨ c = '.' ∧ rest.head?.any Char.isDigit then
      (number? text).bind fun (value, rest) =>
        if rest.head?.any isNamePart then none else some (.literal value, rest)
    else if isNameStart c then
      some (.name (String.ofList (text.takeWhile isNamePart)), text.dropWhile isNamePart)
    else if c = '"' ∨ c = '\'' then
      (letters? c rest).map fun (letters, rest) =>
        (.literal (.string (String.ofList letters)), rest)
    else (mark? text).map fun (mark, rest) => (.mark mark, rest)

/-- A text and the tokens that it consists of. -/
inductive Tokens : List Char → List Token → Prop where
  | done : Tokens [] []
  | blank {c : Char} {rest : List Char} {tokens : List Token} (blank : isBlank c = true)
      (more : Tokens rest tokens) : Tokens (c :: rest) tokens
  | token {text rest : List Char} {token : Token} {tokens : List Token}
      (first : token? text = some (token, rest)) (more : Tokens rest tokens) :
      Tokens text (token :: tokens)

/-! ## Expressions -/

inductive Expr where
  | literal (value : Value)
  | reference (name : String)
  | property (object : Expr) (name : String)
  | negate (operand : Expr)
  | power (base exponent : Expr)
  | difference (left right : Expr)

/-- Words that look like names but are values. -/
def namedValue? : String → Option Value
  | "null" => some .null
  | "true" => some (.bool true)
  | "false" => some (.bool false)
  | _ => none

/-- Words that refer to nothing. -/
def reservedWords : List String :=
  ["await", "break", "case", "catch", "class", "const", "continue", "debugger", "default", "delete",
    "do", "else", "enum", "export", "extends", "false", "finally", "for", "function", "if",
    "implements", "import", "in", "instanceof", "interface", "let", "new", "null", "package",
    "private", "protected", "public", "return", "static", "super", "switch", "this", "throw",
    "true", "try", "typeof", "var", "void", "while", "with", "yield"]

/-- The layers of the grammar, from the tightest. -/
inductive Layer where
  | member
  | unary
  | power
  | additive
  deriving DecidableEq

/-- The tokens of an expression. The base of a power is a member expression, so a minus sign before
it needs parentheses; the exponent may be negated or be a power itself. -/
inductive Derives : Layer → List Token → Expr → Prop where
  | literal (value : Value) : Derives .member [.literal value] (.literal value)
  | named {name : String} {value : Value} (known : namedValue? name = some value) :
      Derives .member [.name name] (.literal value)
  | reference {name : String} (free : name ∉ reservedWords) :
      Derives .member [.name name] (.reference name)
  | parenthesized {tokens : List Token} {e : Expr} (inner : Derives .additive tokens e) :
      Derives .member (.mark .opening :: (tokens ++ [.mark .closing])) e
  | property {tokens : List Token} {e : Expr} (name : String) (object : Derives .member tokens e) :
      Derives .member (tokens ++ [.mark .dot, .name name]) (.property e name)
  | operand {tokens : List Token} {e : Expr} (member : Derives .member tokens e) :
      Derives .unary tokens e
  | negate {tokens : List Token} {e : Expr} (operand : Derives .unary tokens e) :
      Derives .unary (.mark .minus :: tokens) (.negate e)
  | factor {tokens : List Token} {e : Expr} (unary : Derives .unary tokens e) :
      Derives .power tokens e
  | power {bases exponents : List Token} {base exponent : Expr}
      (left : Derives .member bases base) (right : Derives .power exponents exponent) :
      Derives .power (bases ++ .mark .power :: exponents) (.power base exponent)
  | term {tokens : List Token} {e : Expr} (factor : Derives .power tokens e) :
      Derives .additive tokens e
  | difference {lefts rights : List Token} {left right : Expr}
      (first : Derives .additive lefts left) (second : Derives .power rights right) :
      Derives .additive (lefts ++ .mark .minus :: rights) (.difference left right)

/-! ## Values -/

/-- The number with the other sign. -/
def opposite : Double → Double
  | .nan => .nan
  | .infinite negative => .infinite !negative
  | .finite negative mantissa exponent canonical => .finite (!negative) mantissa exponent canonical

/-- The difference of finite numbers, rounded. -/
def minus? (x y : Double) : Option Double :=
  if x.isFinite && y.isFinite then
    let exact := x.scaled - y.scaled
    if exact = 0 then some (.zero (x.isNegativeZero && !y.isNegativeZero && y.isZero))
    else some (.ofRatio (exact < 0) exact.natAbs (2 ^ 1074))
  else none

def Expr.value? : Expr → Option Value
  | .literal value => some value
  | .reference "undefined" => some .undefined
  | .reference "NaN" => some (.number .nan)
  | .reference "Infinity" => some (.number (.infinite false))
  | .reference _ => none
  | .property (.reference "Number") "MAX_SAFE_INTEGER" =>
    some (.number (.ofInt Numeral.greatestSafe))
  | .property (.reference "Number") "MIN_SAFE_INTEGER" =>
    some (.number (.ofInt (-Numeral.greatestSafe)))
  | .property _ _ => none
  | .negate operand =>
    match operand.value? with
    | some (.number x) => some (.number (opposite x))
    | some (.bigint n) => some (.bigint (-n))
    | _ => none
  | .power base exponent =>
    match base.value?, exponent.value? with
    | some (.number x), some (.number y) =>
      match x.integer?, y.integer? with
      | some m, some n => if 0 < m ∧ 0 ≤ n then some (.number (.ofInt (m ^ n.toNat))) else none
      | _, _ => none
    | some (.bigint m), some (.bigint n) =>
      if 0 ≤ n then some (.bigint (m ^ n.toNat)) else none
    | _, _ => none
  | .difference left right =>
    match left.value?, right.value? with
    | some (.number x), some (.number y) => (minus? x y).map .number
    | some (.bigint m), some (.bigint n) => some (.bigint (m - n))
    | _, _ => none

end SchemaSource.Script
