import SchemaSource.Doc
/-!
Quoted text is read back in one way. No quote ends before its closing mark, whatever text follows,
and a property name is told from the text after it.
-/
namespace SchemaSource

namespace Text

/-- The value of a hexadecimal digit. -/
def hexValue (c : Char) : Nat :=
  if c.toNat < 58 then c.toNat - 48 else c.toNat - 87

/-- The character that an escape at the start of a text stands for, with the text after it. -/
def unescape : List Char → Option (Char × List Char)
  | '\\' :: '"' :: rest => some ('"', rest)
  | '\\' :: '\\' :: rest => some ('\\', rest)
  | '\\' :: 'b' :: rest => some ('\x08', rest)
  | '\\' :: 't' :: rest => some ('\t', rest)
  | '\\' :: 'n' :: rest => some ('\n', rest)
  | '\\' :: 'f' :: rest => some ('\x0c', rest)
  | '\\' :: 'r' :: rest => some ('\r', rest)
  | '\\' :: 'u' :: _ :: _ :: high :: low :: rest =>
    some (Char.ofNat (16 * hexValue high + hexValue low), rest)
  | c :: rest => some (c, rest)
  | [] => none

theorem hexValue_hexDigit {n : Nat} (small : n < 16) : hexValue (hexDigit n) = n := by
  have each : ∀ n < 16, hexValue (hexDigit n) = n := by decide
  exact each n small

theorem unescape_escapeChar (c : Char) (rest : List Char) :
    unescape (escapeChar c ++ rest) = some (c, rest) := by
  unfold escapeChar
  split
  next h => rw [h]; rfl
  split
  next h => rw [h]; rfl
  split
  next h => rw [h]; rfl
  split
  next h => rw [h]; rfl
  split
  next h => rw [h]; rfl
  split
  next h => rw [h]; rfl
  split
  next h => rw [h]; rfl
  split
  next small =>
    have high := hexValue_hexDigit (show c.toNat / 16 < 16 by omega)
    have low := hexValue_hexDigit (show c.toNat % 16 < 16 by omega)
    simp only [List.cons_append, List.nil_append, unescape, high, low, Nat.div_add_mod,
      Char.ofNat_toNat]
  next notQuote notSlash _ _ _ _ _ _ =>
    simp [unescape, notSlash]

/-- An escape does not start with the mark that ends a quote. -/
theorem escapeChar_eq_cons (c : Char) :
    ∃ first rest, escapeChar c = first :: rest ∧ first ≠ '"' := by
  unfold escapeChar
  repeat' split
  all_goals exact ⟨_, _, rfl, by first | decide | assumption⟩

theorem escaped_append_inj {cs ds r s : List Char}
    (h : cs.flatMap escapeChar ++ '"' :: r = ds.flatMap escapeChar ++ '"' :: s) :
    cs = ds ∧ r = s := by
  induction cs generalizing ds with
  | nil =>
    cases ds with
    | nil => exact ⟨rfl, (List.cons.inj h).2⟩
    | cons d ds =>
      obtain ⟨first, rest, escape, other⟩ := escapeChar_eq_cons d
      rw [List.flatMap_cons, escape] at h
      exact absurd (List.cons.inj h).1.symm other
  | cons c cs ih =>
    cases ds with
    | nil =>
      obtain ⟨first, rest, escape, other⟩ := escapeChar_eq_cons c
      rw [List.flatMap_cons, escape] at h
      exact absurd (List.cons.inj h).1 other
    | cons d ds =>
      rw [List.flatMap_cons, List.flatMap_cons, List.append_assoc, List.append_assoc] at h
      have read := congrArg unescape h
      rw [unescape_escapeChar, unescape_escapeChar] at read
      obtain ⟨rfl, rest⟩ := Prod.mk.inj (Option.some.inj read)
      obtain ⟨rfl, same⟩ := ih rest
      exact ⟨rfl, same⟩

/-- A quote ends at its closing mark, whatever comes after. -/
theorem quote_append_inj {s t : String} {r u : List Char}
    (h : (quote s).toList ++ r = (quote t).toList ++ u) : s = t ∧ r = u := by
  simp only [quote, quoteChars, String.toList_ofList, List.cons_append, List.append_assoc,
    List.nil_append] at h
  obtain ⟨same, rest⟩ := escaped_append_inj (List.cons.inj h).2
  exact ⟨String.toList_inj.mp same, rest⟩

/-- Texts without a mark that both end at that mark are the same text. -/
theorem append_mark_inj {mark : Char} {cs ds r s : List Char} (left : mark ∉ cs) (right : mark ∉ ds)
    (h : cs ++ mark :: r = ds ++ mark :: s) : cs = ds ∧ r = s := by
  induction cs generalizing ds with
  | nil =>
    cases ds with
    | nil => exact ⟨rfl, (List.cons.inj h).2⟩
    | cons d ds => exact absurd (List.cons.inj h).1 (List.ne_of_not_mem_cons right)
  | cons c cs ih =>
    cases ds with
    | nil => exact absurd (List.cons.inj h).1.symm (List.ne_of_not_mem_cons left)
    | cons d ds =>
      obtain ⟨rfl, rest⟩ := List.cons.inj h
      obtain ⟨rfl, same⟩ :=
        ih (List.not_mem_of_not_mem_cons left) (List.not_mem_of_not_mem_cons right) rest
      exact ⟨rfl, same⟩

end Text

/-! ## Property names -/

theorem isBareName_cons {name : String} (bare : isBareName name = true) :
    ∃ first rest, name.toList = first :: rest ∧ isNameStart first = true ∧
      ∀ c ∈ rest, (isNameStart c || c.isDigit) = true := by
  unfold isBareName at bare
  cases letters : name.toList with
  | nil => rw [letters] at bare; cases bare
  | cons first rest =>
    rw [letters] at bare
    simp only [Bool.and_eq_true, List.all_eq_true] at bare
    exact ⟨first, rest, rfl, bare⟩

/-- The text of a property name starts with a quote if it is quoted, and with a letter or the like
if it is not. -/
theorem propertyName_cons (name : String) :
    ∃ first rest, (propertyName name).toList = first :: rest ∧
      (first = '"' ∨ isNameStart first = true) := by
  unfold propertyName
  split
  next bare =>
    obtain ⟨first, rest, letters, start, _⟩ := isBareName_cons bare
    exact ⟨first, rest, letters, .inr start⟩
  next =>
    refine ⟨'"', name.toList.flatMap Text.escapeChar ++ ['"'], ?_, .inl rfl⟩
    rw [Text.quote, String.toList_ofList, Text.quoteChars]

theorem colon_not_mem_bare {name : String} (bare : isBareName name = true) : ':' ∉ name.toList := by
  obtain ⟨first, rest, letters, start, others⟩ := isBareName_cons bare
  rw [letters]
  rintro (_ | ⟨_, inside⟩)
  · exact absurd start (by decide)
  · exact absurd (others ':' inside) (by decide)

theorem quote_ne_bare {quoted bare : String} {r s : List Char} (isBare : isBareName bare = true) :
    (Text.quote quoted).toList ++ r ≠ bare.toList ++ s := by
  obtain ⟨first, rest, letters, start, _⟩ := isBareName_cons isBare
  intro same
  rw [Text.quote, String.toList_ofList, letters] at same
  rw [← (List.cons.inj same).1] at start
  exact absurd start (by decide)

/-- A property name is told from the text after its colon. -/
theorem propertyName_append_inj {name other : String} {r s : List Char}
    (h : (propertyName name).toList ++ ':' :: r = (propertyName other).toList ++ ':' :: s) :
    name = other ∧ r = s := by
  unfold propertyName at h
  split at h
  next bare =>
    split at h
    next otherBare =>
      obtain ⟨same, rest⟩ :=
        Text.append_mark_inj (colon_not_mem_bare bare) (colon_not_mem_bare otherBare) h
      exact ⟨String.toList_inj.mp same, rest⟩
    next => exact absurd h.symm (quote_ne_bare bare)
  next =>
    split at h
    next otherBare => exact absurd h (quote_ne_bare otherBare)
    next =>
      obtain ⟨same, rest⟩ := Text.quote_append_inj h
      exact ⟨same, (List.cons.inj rest).2⟩

end SchemaSource
