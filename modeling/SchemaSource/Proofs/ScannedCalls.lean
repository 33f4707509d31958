import SchemaSource.Proofs.Rendering
import SchemaSource.Proofs.ScannedText
/-!
What a scan makes of the calls that constraints turn into. The texts that stand as they are have to
be clean: strings that are bounds, and the parts of regular expressions.
-/
namespace SchemaSource

open Text

/-! ## Clean data -/

/-- The text has no character that means something to a scan, in code or in a comment. -/
def Text.IsClean (text : String) : Prop := ∀ c ∈ text.toList, c ∉ '*' :: '\n' :: activeChars

instance (text : String) : Decidable (IsClean text) :=
  List.decidableBAll (fun c => c ∉ '*' :: '\n' :: activeChars) text.toList

theorem Text.IsClean.plain {text : String} (clean : IsClean text) : IsPlain text :=
  fun c member plain => clean c member (List.mem_cons_of_mem _ plain)

theorem Text.IsClean.one_line {text : String} (clean : IsClean text) : '\n' ∉ text.toList :=
  fun member => clean.plain '\n' member List.mem_cons_self

def RegExp.IsClean (r : RegExp) : Prop := Text.IsClean r.source ∧ Text.IsClean r.flags

instance (r : RegExp) : Decidable r.IsClean :=
  inferInstanceAs (Decidable (Text.IsClean r.source ∧ Text.IsClean r.flags))

/-- A regular expression; other values are none. -/
def Value.regexp? : Value → Option RegExp
  | .regexp r => some r
  | _ => none

/-- The kinds of constraint whose operand is a bound. -/
def boundKinds : List String := ["min", "max", "length", "size", "multipleOf"]

/-- The names of bounds that a definition itself holds. -/
def countKeys : List String := (Rule.arrayCounts ++ Rule.setCounts).map (·.1)

/-- What a definition has written as it stands is clean: the strings that it stores as bounds, in its
checks or by itself, and the regular expressions of its checks. -/
structure Fields.HasCleanText (definition : Fields) : Prop where
  bound : ∀ check ∈ definition.checks, check.kind ∈ boundKinds →
    ∀ s ∈ check.resolved.bind Value.string?, IsClean s
  count : ∀ key ∈ countKeys, ∀ s ∈ (Rule.count? definition key).bind Value.string?, IsClean s
  pattern : ∀ check ∈ definition.checks,
    ∀ r ∈ (check.pattern <|> check.value).bind Value.regexp?, r.IsClean

instance (definition : Fields) : Decidable definition.HasCleanText :=
  decidable_of_iff
    ((∀ check ∈ definition.checks, check.kind ∈ boundKinds →
        ∀ s ∈ check.resolved.bind Value.string?, IsClean s) ∧
      (∀ key ∈ countKeys, ∀ s ∈ (Rule.count? definition key).bind Value.string?, IsClean s) ∧
      ∀ check ∈ definition.checks,
        ∀ r ∈ (check.pattern <|> check.value).bind Value.regexp?, r.IsClean)
    ⟨fun all => ⟨all.1, all.2.1, all.2.2⟩, fun clean => ⟨clean.bound, clean.count, clean.pattern⟩⟩

variable {lines : Bool}

/-! ## Regular expressions -/

namespace Scan

variable {brackets : List Bracket} {c : Char} {rest : List Char}

/-- A slash opens nothing before anything but a star. -/
theorem run_slash (other : c ≠ '*') :
    run ⟨.slash, brackets⟩ (c :: rest) = run ⟨.code, brackets⟩ (c :: rest) := by
  simp only [run, step, ScanMode.skip?, if_neg other]

theorem run_slash_append {cs : List Char} (clean : ∀ d ∈ cs, d ∉ '*' :: '\n' :: activeChars)
    (other : c ≠ '*') :
    run ⟨.slash, brackets⟩ (cs ++ c :: rest) = run ⟨.code, brackets⟩ (c :: rest) := by
  cases cs with
  | nil => exact run_slash other
  | cons d tail =>
    have inert : ∀ e ∈ d :: tail, e ∉ activeChars := fun e member active =>
      clean e member (List.mem_cons_of_mem _ (List.mem_cons_of_mem _ active))
    have notStar : d ≠ '*' := by
      rintro rfl
      exact clean '*' List.mem_cons_self List.mem_cons_self
    rw [List.cons_append, run_slash notStar, ← List.cons_append]
    exact run_of_inert inert brackets (c :: rest)

end Scan

namespace Rule

theorem callText_moves {method argument : String} (plain : IsPlain method)
    (moves : Moves lines [] argument []) : Moves lines [] (callText method argument) [] := by
  have named : Moves lines [] ("." ++ method) [] := (IsPlain.append (by decide) plain).moves
  have opened : Moves lines [] ("." ++ method ++ "(") [.round] := named.append (.fixed (by decide))
  exact (opened.append (moves.between_brackets [.round])).append (.fixed (by decide))

/-- A regular expression that is given to a call. Its last slash stands before a flag or before the
end of the call, and opens nothing. -/
theorem regexCall_moves {r : RegExp} (clean : r.IsClean) :
    Moves lines [] (callText "regex" r.text) [] := by
  obtain ⟨source, flags⟩ := clean
  have letters : (callText "regex" r.text).toList =
      ".regex(".toList ++ '/' ::
        ((if r.source.isEmpty then "(?:)" else r.source).toList ++ '/' ::
          (r.flags.toList ++ [')'])) := by
    simp [callText, RegExp.text, String.toList_append]
  constructor
  · intro outer
    rw [letters, Scan.run_append]
    change Scan.run ⟨.slash, .round :: outer⟩ _ = _
    have body : Scan.run ⟨.slash, .round :: outer⟩
        ((if r.source.isEmpty then "(?:)" else r.source).toList ++ '/' ::
          (r.flags.toList ++ [')'])) =
        Scan.run ⟨.slash, .round :: outer⟩ (r.flags.toList ++ [')']) := by
      split
      · rfl
      · rw [Scan.run_slash_append source (by decide)]
        rfl
    rw [body, Scan.run_slash_append flags (by decide)]
    rfl
  · intro _ member
    have body : '\n' ∉ (if r.source.isEmpty then "(?:)" else r.source).toList := by
      split
      · decide
      · exact source.one_line
    rw [letters] at member
    simp only [List.mem_append, List.mem_cons] at member
    rcases member with opening | slash | inBody | slash | inFlags | closing
    · exact absurd opening (by decide)
    · exact absurd slash (by decide)
    · exact body inBody
    · exact absurd slash (by decide)
    · exact flags.one_line inFlags
    · exact absurd closing (by decide)

/-! ## Bounds -/

section Bounds

variable {o : Optimizations}

theorem boundText_moves {value : Value} (clean : ∀ s ∈ value.string?, IsClean s) :
    Moves lines [] (o.boundText value) [] := by
  unfold Optimizations.boundText
  split
  · exact numberText_moves o _
  · exact bigintText_moves o _
  · exact (clean _ rfl).plain.moves
  · split <;> exact .fixed (by decide)
  · exact .fixed (by decide)
  · exact .fixed (by decide)
  · exact Value.jsonTextOrUndefined_moves _

variable {bound : Option Value} (clean : ∀ s ∈ bound.bind Value.string?, IsClean s)
include clean

theorem boundText_getD_moves : Moves lines [] (o.boundText (bound.getD .undefined)) [] := by
  cases bound with
  | none =>
    have word : IsPlain "undefined" := by decide
    exact word.moves
  | some value => exact boundText_moves clean

theorem bigintBound_moves : Moves lines [] (bigintBound o bound) [] := by
  unfold bigintBound
  split
  · exact (IsPlain.append (Double.text_plain _) (by decide)).moves
  · exact boundText_moves clean
  · exact .fixed (by decide)

end Bounds

/-! ## Calls -/

theorem flag_moves {method : String} (plain : IsPlain method) :
    Moves lines [] (callText method "") [] :=
  callText_moves plain (.empty [])

/-- A constructor, with or without the conversion of its input. -/
theorem constructor_moves {name : String} (plain : IsPlain name) (definition : Fields) :
    Moves lines [] (constructor name definition) [] := by
  have call : Moves lines [] "()" [] := .fixed (by decide)
  unfold constructor
  split
  · exact (IsPlain.append (by decide) plain).moves.append call
  · exact (IsPlain.append (by decide) plain).moves.append call

theorem plain_of_boundKind : ∀ kind ∈ boundKinds, IsPlain kind := by decide

section Checks

variable {definition : Fields} {check : Check} {o : Optimizations}
  (clean : definition.HasCleanText) (member : check ∈ definition.checks)
include clean member

/-- A call with the bound of a check, written as it stands. -/
theorem countCall_moves (known : check.kind ∈ boundKinds) :
    Moves lines [] (callText check.kind (countText check.resolved)) [] :=
  callText_moves (plain_of_boundKind _ known)
    (boundText_getD_moves (clean.bound check member known))

theorem stringCall?_moves {call : String} (called : stringCall? check = some call) : Moves lines [] call [] := by
  have operand (plain : IsPlain check.kind) :
      Moves lines []
        (callText check.kind ((check.resolved.bind Value.jsonText?).getD "undefined")) [] :=
    callText_moves plain (Value.jsonText?_getD_moves _ (.fixed (by decide)))
  have bare : ∀ kind ∈ bareStringChecks, IsPlain kind := by decide
  unfold stringCall? at called
  split at called
  · next kind =>
    cases called
    exact countCall_moves clean member (by rw [kind]; decide)
  · next kind =>
    cases called
    exact countCall_moves clean member (by rw [kind]; decide)
  · next kind =>
    cases called
    exact countCall_moves clean member (by rw [kind]; decide)
  · split at called
    · next pattern found =>
      cases called
      exact regexCall_moves (clean.pattern check member pattern (by rw [found]; rfl))
    · cases called
  · next kind =>
    cases called
    exact operand (by rw [kind]; decide)
  · next kind =>
    cases called
    exact operand (by rw [kind]; decide)
  · next kind =>
    cases called
    exact operand (by rw [kind]; decide)
  · split at called
    · next known =>
      cases called
      exact flag_moves (bare _ known)
    · cases called

theorem sizeCall?_moves {exact : String} (size : exact ∈ boundKinds) {call : String}
    (called : sizeCall? exact check = some call) : Moves lines [] call [] := by
  unfold sizeCall? at called
  split at called
  · next kind =>
    cases called
    refine countCall_moves clean member ?_
    rcases kind with kind | kind | kind
    · rw [kind]
      decide
    · rw [kind]
      decide
    · rw [kind]
      exact size
  · cases called

end Checks

theorem directCall?_moves {definition : Fields} (clean : definition.HasCleanText)
    {key method : String} (known : key ∈ countKeys) (plain : IsPlain method) {call : String}
    (called : directCall? definition key method = some call) : Moves lines [] call [] := by
  obtain ⟨value, found, rfl⟩ := Option.map_eq_some_iff.mp called
  have bound := clean.count key known
  rw [found] at bound
  exact callText_moves plain (boundText_moves bound)

theorem boundCalls_move {definition : Fields} (clean : definition.HasCleanText)
    {counts : List (String × String)} {exact : String}
    (known : ∀ count ∈ counts, count.1 ∈ countKeys ∧ IsPlain count.2) (size : exact ∈ boundKinds) :
    ∀ call ∈ boundCalls definition counts exact, Moves lines [] call [] := by
  intro call member
  rw [boundCalls, List.mem_eraseDups, List.mem_append] at member
  rcases member with direct | checked
  · obtain ⟨⟨key, method⟩, count, called⟩ := List.mem_filterMap.mp direct
    obtain ⟨key, method⟩ := known _ count
    exact directCall?_moves clean key method called
  · obtain ⟨check, member, called⟩ := List.mem_filterMap.mp checked
    exact sizeCall?_moves clean member size called

/-! ## Ranges -/

section Ranges

variable {bound : Option Value → String} {check : Check} {semantic zero : Bool}

theorem lowerCall_moves (moves : Moves lines [] (bound check.resolved) []) :
    Moves lines [] ((lowerCall semantic zero check).text bound) [] := by
  unfold lowerCall
  split
  · split
    · split <;> exact flag_moves (by decide)
    · exact callText_moves (by decide) moves
  · exact callText_moves (by decide) moves

theorem upperCall_moves (moves : Moves lines [] (bound check.resolved) []) :
    Moves lines [] ((upperCall semantic zero check).text bound) [] := by
  unfold upperCall
  split
  · split
    · split <;> exact flag_moves (by decide)
    · exact callText_moves (by decide) moves
  · exact callText_moves (by decide) moves

theorem numberCall?_moves {after : Bool} {call : RangeCall}
    (moves : check.kind ∈ boundKinds → Moves lines [] (bound check.resolved) [])
    (called : numberCall? semantic after check = some call) :
    Moves lines [] (call.text bound) [] := by
  have bare : ∀ kind ∈ bareNumberChecks, IsPlain kind := by decide
  unfold numberCall? at called
  dsimp only at called
  split at called
  · next kind =>
    cases called
    exact lowerCall_moves (moves (by rw [kind]; decide))
  · next kind =>
    cases called
    split
    · exact flag_moves (by decide)
    · exact upperCall_moves (moves (by rw [kind]; decide))
  · next kind =>
    cases called
    exact callText_moves (by decide) (moves (by rw [kind]; decide))
  · split at called
    · next known =>
      cases called
      exact flag_moves (bare _ known)
    · cases called

theorem bigintCall?_moves {call : RangeCall}
    (moves : check.kind ∈ boundKinds → Moves lines [] (bound check.resolved) [])
    (called : bigintCall? semantic check = some call) : Moves lines [] (call.text bound) [] := by
  have bare : ∀ kind ∈ bareBigintChecks, IsPlain kind := by decide
  unfold bigintCall? at called
  dsimp only at called
  split at called
  · next kind =>
    cases called
    exact lowerCall_moves (moves (by rw [kind]; decide))
  · next kind =>
    cases called
    exact upperCall_moves (moves (by rw [kind]; decide))
  · next kind =>
    cases called
    exact callText_moves (by decide) (moves (by rw [kind]; decide))
  · split at called
    · next known =>
      cases called
      exact flag_moves (bare _ known)
    · cases called

/-- Every call of a number comes from one of its checks. -/
theorem exists_check_of_numberCalls {after : Bool} {checks : List Check} {call : RangeCall}
    (member : call ∈ numberCalls semantic after checks) :
    ∃ check ∈ checks, ∃ later, numberCall? semantic later check = some call := by
  induction checks generalizing after with
  | nil => cases member
  | cons check rest ih =>
    rw [numberCalls, List.mem_append, Option.mem_toList] at member
    rcases member with here | below
    · exact ⟨check, List.mem_cons_self, after, here⟩
    · obtain ⟨other, inRest, called⟩ := ih below
      exact ⟨other, List.mem_cons_of_mem _ inRest, called⟩

end Ranges

/-- The bounds of dates are written as dates, whatever they were given by. -/
theorem dateCalls_move {checks : List Check} {calls : List String}
    (called : dateCalls checks = .ok calls) : ∀ call ∈ calls, Moves lines [] call [] := by
  induction checks generalizing calls with
  | nil =>
    cases called
    intro call member
    cases member
  | cons check rest ih =>
    rw [dateCalls] at called
    split at called
    · next kind =>
      obtain ⟨text, -, called⟩ := bind_eq_ok_iff.mp called
      obtain ⟨others, later, called⟩ := bind_eq_ok_iff.mp called
      cases called
      have plain : IsPlain check.kind := by
        rcases kind with kind | kind
        · rw [kind]
          decide
        · rw [kind]
          decide
      have opening : Moves lines [] "new Date(" [.round] := .fixed (by decide)
      have closing : Moves lines [.round] ")" [] := .fixed (by decide)
      have date := (opening.append ((quote_moves text).between_brackets [.round])).append closing
      intro call member
      rcases List.mem_cons.mp member with rfl | other
      · exact callText_moves plain date
      · exact ih later call other
    · exact ih called

end Rule
end SchemaSource
