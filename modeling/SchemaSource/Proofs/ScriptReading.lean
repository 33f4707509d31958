import SchemaSource.Proofs.Script
/-!
An expression reads in one way. Its tokens are recognized from left to right with one token of
lookahead, so neither they nor their order leave a choice, and neither does the text a choice of
tokens. A negated number is no base of a power.
-/
namespace SchemaSource.Script

/-! ## From text to tokens -/

theorem isBlank_of_ascii {c : Char} (printed : 32 < c.toNat) (ascii : c.toNat < 128) :
    isBlank c = false := by
  have other : c ≠ '\uFEFF' := by
    rintro rfl
    exact absurd ascii (by decide)
  simp only [isBlank, Text.isBlank, Bool.or_eq_false_iff, Bool.and_eq_false_iff,
    beq_eq_false_iff_ne, decide_eq_false_iff_not, ne_eq]
  exact ⟨.inl (by omega), other⟩

theorem ascii_of_isNamePart {c : Char} (part : isNamePart c = true) :
    32 < c.toNat ∧ c.toNat < 128 := by
  have alpha : c.isAlpha =
      (decide (c.val ≥ 65 ∧ c.val ≤ 90) || (decide (c.val ≥ 97) && decide (c.val ≤ 122))) := rfl
  simp only [isNamePart, isNameStart, alpha, Char.isDigit, Bool.or_eq_true, Bool.and_eq_true,
    decide_eq_true_eq, beq_iff_eq, UInt32.le_iff_toNat_le, ge_iff_le] at part
  rcases part with ((((⟨lo, hi⟩ | ⟨lo, hi⟩) | rfl) | rfl) | ⟨lo, hi⟩)
  all_goals first
    | decide
    | exact ⟨Nat.lt_of_lt_of_le (by decide) lo, Nat.lt_of_le_of_lt hi (by decide)⟩

theorem token?_blank {c : Char} (blank : isBlank c = true) (rest : List Char) :
    token? (c :: rest) = none := by
  have part : isNamePart c = false := by
    rw [Bool.eq_false_iff]
    intro part
    obtain ⟨printed, ascii⟩ := ascii_of_isNamePart part
    rw [isBlank_of_ascii printed ascii] at blank
    cases blank
  have mark : c ∉ ['"', '\'', '(', ')', '.', '-', '*'] := by
    intro mark
    have marks : (['"', '\'', '(', ')', '.', '-', '*'].all fun m => !isBlank m) = true := by decide
    have other := List.all_eq_true.mp marks c mark
    rw [blank] at other
    cases other
  simp only [List.mem_cons, not_or] at mark
  obtain ⟨double, single, opening, closing, dot, minus, star, -⟩ := mark
  rw [isNamePart, Bool.or_eq_false_iff] at part
  simp [token?, mark?, part, double, single, opening, closing, dot, minus, star]

theorem Tokens.unique {text : List Char} {tokens tokens' : List Token} (one : Tokens text tokens)
    (other : Tokens text tokens') : tokens = tokens' := by
  induction one generalizing tokens' with
  | done =>
    cases other with
    | done => rfl
    | token first => cases first
  | blank blank more ih =>
    cases other with
    | blank _ more' => exact ih more'
    | token first => rw [token?_blank blank] at first; cases first
  | token first more ih =>
    cases other with
    | done => cases first
    | blank blank => rw [token?_blank blank] at first; cases first
    | token first' more' =>
      rw [first] at first'
      cases first'
      rw [ih more']

/-! ## From tokens to expressions -/

/-- What is read next: an expression of a layer, or what may follow the part of one. -/
inductive Goal where
  | layer (layer : Layer)
  | properties (object : Expr)
  | differences (left : Expr)

/-- Reading from the left: the tokens of an expression and those after it. -/
inductive Reads : Goal → List Token → Expr → List Token → Prop where
  | literal {value : Value} {tokens rest : List Token} {e : Expr}
      (more : Reads (.properties (.literal value)) tokens e rest) :
      Reads (.layer .member) (.literal value :: tokens) e rest
  | named {name : String} {value : Value} {tokens rest : List Token} {e : Expr}
      (known : namedValue? name = some value)
      (more : Reads (.properties (.literal value)) tokens e rest) :
      Reads (.layer .member) (.name name :: tokens) e rest
  | reference {name : String} {tokens rest : List Token} {e : Expr} (free : name ∉ reservedWords)
      (more : Reads (.properties (.reference name)) tokens e rest) :
      Reads (.layer .member) (.name name :: tokens) e rest
  | parenthesized {tokens after rest : List Token} {inner e : Expr}
      (content : Reads (.layer .additive) tokens inner (.mark .closing :: after))
      (more : Reads (.properties inner) after e rest) :
      Reads (.layer .member) (.mark .opening :: tokens) e rest
  | property {object e : Expr} {name : String} {tokens rest : List Token}
      (more : Reads (.properties (.property object name)) tokens e rest) :
      Reads (.properties object) (.mark .dot :: .name name :: tokens) e rest
  | object {object : Expr} {tokens : List Token} (stop : tokens.head? ≠ some (.mark .dot)) :
      Reads (.properties object) tokens object tokens
  | operand {tokens rest : List Token} {e : Expr} (member : Reads (.layer .member) tokens e rest) :
      Reads (.layer .unary) tokens e rest
  | negate {tokens rest : List Token} {e : Expr} (operand : Reads (.layer .unary) tokens e rest) :
      Reads (.layer .unary) (.mark .minus :: tokens) (.negate e) rest
  | factor {tokens rest : List Token} {e : Expr} (unary : Reads (.layer .unary) tokens e rest)
      (stop : rest.head? ≠ some (.mark .power)) : Reads (.layer .power) tokens e rest
  | power {tokens after rest : List Token} {base exponent : Expr}
      (left : Reads (.layer .member) tokens base (.mark .power :: after))
      (right : Reads (.layer .power) after exponent rest) :
      Reads (.layer .power) tokens (.power base exponent) rest
  | term {tokens after rest : List Token} {left e : Expr}
      (first : Reads (.layer .power) tokens left after)
      (more : Reads (.differences left) after e rest) :
      Reads (.layer .additive) tokens e rest
  | difference {tokens after rest : List Token} {left right e : Expr}
      (second : Reads (.layer .power) tokens right after)
      (more : Reads (.differences (.difference left right)) after e rest) :
      Reads (.differences left) (.mark .minus :: tokens) e rest
  | last {left : Expr} {tokens : List Token} (stop : tokens.head? ≠ some (.mark .minus)) :
      Reads (.differences left) tokens left tokens

theorem namedValue?_reserved {name : String} {value : Value}
    (known : namedValue? name = some value) :
    name ∈ reservedWords := by
  unfold namedValue? at known
  split at known
  · decide
  · decide
  · decide
  · cases known

/-- The next token settles how to read on. -/
theorem Reads.unique {goal : Goal} {tokens rest rest' : List Token} {e e' : Expr}
    (one : Reads goal tokens e rest) (other : Reads goal tokens e' rest') :
    e = e' ∧ rest = rest' := by
  induction one generalizing e' rest' with
  | literal more ih =>
    cases other with
    | literal more' => exact ih more'
  | named known more ih =>
    cases other with
    | named known' more' =>
      rw [known] at known'
      cases known'
      exact ih more'
    | reference free => exact absurd (namedValue?_reserved known) free
  | reference free more ih =>
    cases other with
    | named known => exact absurd (namedValue?_reserved known) free
    | reference _ more' => exact ih more'
  | parenthesized content more ihContent ihMore =>
    cases other with
    | parenthesized content' more' =>
      obtain ⟨rfl, same⟩ := ihContent content'
      cases same
      exact ihMore more'
  | property more ih =>
    cases other with
    | property more' => exact ih more'
    | object stop => exact absurd rfl stop
  | object stop =>
    cases other with
    | property => exact absurd rfl stop
    | object => exact ⟨rfl, rfl⟩
  | operand member ih =>
    cases other with
    | operand member' => exact ih member'
    | negate => cases member
  | negate operand ih =>
    cases other with
    | operand member => cases member
    | negate operand' =>
      obtain ⟨rfl, same⟩ := ih operand'
      exact ⟨rfl, same⟩
  | factor unary stop ih =>
    cases other with
    | factor unary' => exact ih unary'
    | power left =>
      obtain ⟨-, rfl⟩ := ih (.operand left)
      exact absurd rfl stop
  | power left right ihLeft ihRight =>
    cases other with
    | factor unary stop =>
      cases unary with
      | operand member =>
        obtain ⟨-, rfl⟩ := ihLeft member
        exact absurd rfl stop
      | negate => cases left
    | power left' right' =>
      obtain ⟨rfl, same⟩ := ihLeft left'
      cases same
      obtain ⟨rfl, same⟩ := ihRight right'
      exact ⟨rfl, same⟩
  | term first more ihFirst ihMore =>
    cases other with
    | term first' more' =>
      obtain ⟨rfl, rfl⟩ := ihFirst first'
      exact ihMore more'
  | difference second more ihSecond ihMore =>
    cases other with
    | difference second' more' =>
      obtain ⟨rfl, rfl⟩ := ihSecond second'
      exact ihMore more'
    | last stop => exact absurd rfl stop
  | last stop =>
    cases other with
    | difference => exact absurd rfl stop
    | last => exact ⟨rfl, rfl⟩

/-- The tokens of an expression are read as such, with whatever of its layer may follow. -/
def IsRead (e : Expr) (tokens : List Token) : Layer → Prop
  | .member => ∀ {after rest : List Token} {e' : Expr}, Reads (.properties e) after e' rest →
      Reads (.layer .member) (tokens ++ after) e' rest
  | .unary => ∀ {after : List Token}, after.head? ≠ some (.mark .dot) →
      Reads (.layer .unary) (tokens ++ after) e after
  | .power => ∀ {after : List Token}, after.head? ≠ some (.mark .dot) →
      after.head? ≠ some (.mark .power) → Reads (.layer .power) (tokens ++ after) e after
  | .additive => ∀ {after rest : List Token} {e' : Expr}, after.head? ≠ some (.mark .dot) →
      after.head? ≠ some (.mark .power) → Reads (.differences e) after e' rest →
      Reads (.layer .additive) (tokens ++ after) e' rest

theorem Derives.isRead {layer : Layer} {tokens : List Token} {e : Expr}
    (derived : Derives layer tokens e) : IsRead e tokens layer := by
  induction derived with
  | literal value => exact fun more => .literal more
  | named known => exact fun more => .named known more
  | reference free => exact fun more => .reference free more
  | parenthesized inner ih =>
    intro after rest e' more
    rw [List.cons_append, List.append_assoc]
    exact .parenthesized (ih nofun nofun (.last nofun)) more
  | property name object ih =>
    intro after rest e' more
    rw [List.append_assoc]
    exact ih (.property more)
  | operand member ih => exact fun stop => .operand (ih (.object stop))
  | negate operand ih => exact fun stop => .negate (ih stop)
  | factor unary ih => exact fun dot power => .factor (ih dot) power
  | power left right ihLeft ihRight =>
    intro after dot power
    rw [List.append_assoc]
    exact .power (ihLeft (.object nofun)) (ihRight dot power)
  | term factor ih => exact fun dot power more => .term (ih dot power) more
  | difference first second ihFirst ihSecond =>
    intro after rest e' dot power more
    rw [List.append_assoc]
    exact ihFirst nofun nofun (.difference (ihSecond dot power) more)

theorem Derives.reads {tokens : List Token} {e : Expr} (derived : Derives .additive tokens e) :
    Reads (.layer .additive) tokens e [] := by
  have read : Reads (.layer .additive) (tokens ++ []) e [] :=
    derived.isRead nofun nofun (.last nofun)
  rwa [List.append_nil] at read

/-- The grammar is unambiguous. -/
theorem Derives.unique {tokens : List Token} {e e' : Expr} (one : Derives .additive tokens e)
    (other : Derives .additive tokens e') : e = e' :=
  (one.reads.unique other.reads).1

/-- A negated literal is no base of a power. -/
theorem not_derives_negated_base (value : Value) (exponents : List Token) (e : Expr) :
    ¬Derives .additive (.mark .minus :: .literal value :: .mark .power :: exponents) e := by
  intro derived
  cases derived.reads with
  | term first =>
    cases first with
    | power left => cases left
    | factor unary stop =>
      cases unary with
      | operand member => cases member
      | negate operand =>
        cases operand with
        | operand member =>
          cases member with
          | literal more =>
            cases more with
            | object => exact stop rfl

/-! ## From text to values -/

/-- The text is an expression. -/
def IsExpression (text : String) : Prop :=
  ∃ tokens e, Tokens text.toList tokens ∧ Derives .additive tokens e

/-- The text is an expression, and this is its value. -/
def Evaluates (text : String) (value : Value) : Prop :=
  ∃ tokens e, Tokens text.toList tokens ∧ Derives .additive tokens e ∧ e.value? = some value

theorem Evaluates.isExpression {text : String} {value : Value} (evaluated : Evaluates text value) :
    IsExpression text := by
  obtain ⟨tokens, e, scanned, derived, -⟩ := evaluated
  exact ⟨tokens, e, scanned, derived⟩

/-- A text has at most one value. -/
theorem Evaluates.unique {text : String} {value value' : Value} (one : Evaluates text value)
    (other : Evaluates text value') : value = value' := by
  obtain ⟨tokens, e, scanned, derived, held⟩ := one
  obtain ⟨tokens', e', scanned', derived', held'⟩ := other
  obtain rfl := scanned.unique scanned'
  obtain rfl := derived.unique derived'
  rw [held] at held'
  exact Option.some.inj held'

end SchemaSource.Script
