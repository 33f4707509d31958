import SchemaSource.Proofs.ScannedCalls
import SchemaSource.Proofs.Template
/-!
Rules keep brackets nested. A rule opens and closes brackets in the texts of its template; the
children in between stand for texts that leave the brackets alone.
-/
namespace SchemaSource

open Text

/-! ## Templates -/

namespace Template

variable {α : Type} {lines : Bool} {before between after : List Bracket}

/-- What a scan makes of a template whose children leave the brackets alone. -/
inductive Moves (lines : Bool) : List Bracket → Template α → List Bracket → Prop
  | nil (brackets : List Bracket) : Moves lines brackets [] brackets
  | text {before between after : List Bracket} {content : String} {rest : Template α}
      (moves : Text.Moves lines before content between) (later : Moves lines between rest after) :
      Moves lines before (.text content :: rest) after
  | hole {before after : List Bracket} (child : α) {rest : Template α}
      (later : Moves lines before rest after) : Moves lines before (.hole child :: rest) after
  | block {before after : List Bracket} (entries : List (String × α)) {rest : Template α}
      (later : Moves lines before rest after) : Moves lines before (.block entries :: rest) after

namespace Moves

theorem append {first second : Template α} (head : Moves lines before first between)
    (tail : Moves lines between second after) : Moves lines before (first ++ second) after := by
  induction head with
  | nil => exact tail
  | text moves _ ih => exact .text moves (ih tail)
  | hole child _ ih => exact .hole child (ih tail)
  | block entries _ ih => exact .block entries (ih tail)

theorem single {content : String} (moves : Text.Moves lines before content after) :
    Moves lines before (Template.text content : Template α) after :=
  .text moves (.nil after)

theorem list (brackets : List Bracket) (children : List α) :
    Moves lines brackets (Template.list children) brackets := by
  have comma : Text.Moves lines [] ", " [] := .fixed (by decide)
  induction children using list.induct with
  | case1 => exact .nil brackets
  | case2 child => exact .hole child (.nil brackets)
  | case3 child rest more ih =>
    rw [Template.list]
    · exact .hole child (.text (comma.between_brackets brackets) ih)
    · exact more

/-- Children with commas between them, between an opening and a closing text. -/
theorem enclosed {opening closing : String} (opens : Text.Moves lines before opening between)
    (closes : Text.Moves lines between closing after) (children : List α) :
    Moves lines before (.text opening :: Template.list children ++ [.text closing]) after :=
  append (.text opens (.list between children)) (.single closes)

end Moves
end Template

/-! ## Rules -/

/-- The template of a rule, where there is one, leaves the brackets alone as a whole. -/
def Rule.Nests (rule : Rule) : Prop :=
  ∀ (lines : Bool) (reading : Reading) (whole : Value) (definition : Members whole) (template),
    definition.fields.HasCleanText → rule reading definition = .ok template → template.Moves lines [] []

namespace Rule

open Template (Moves)

theorem bare_nests {name : String} (plain : IsPlain name) : (bare name).Nests := by
  intro lines reading whole definition template clean ruled
  cases ruled
  have call : Text.Moves lines [] "()" [] := .fixed (by decide)
  exact .single ((IsPlain.append (by decide) plain).moves.append call)

theorem boolean_nests : boolean.Nests := by
  intro lines reading whole definition template clean ruled
  cases ruled
  exact .single (constructor_moves (by decide) _)

theorem string_nests : string.Nests := by
  intro lines reading whole definition template clean ruled
  cases ruled
  refine .single ((constructor_moves (by decide) _).append (.join fun call member => ?_))
  obtain ⟨check, member, called⟩ := List.mem_filterMap.mp member
  exact stringCall?_moves clean member called

theorem number_nests : number.Nests := by
  intro lines reading whole definition template clean ruled
  cases ruled
  refine .single ((constructor_moves (by decide) _).append (.join fun text member => ?_))
  obtain ⟨call, made, rfl⟩ := List.mem_map.mp member
  obtain ⟨check, member, later, called⟩ := exists_check_of_numberCalls made
  refine numberCall?_moves (fun known => ?_) called
  exact boundText_getD_moves (clean.bound check member known)

theorem bigint_nests : bigint.Nests := by
  intro lines reading whole definition template clean ruled
  cases ruled
  refine .single ((constructor_moves (by decide) _).append (.join fun text member => ?_))
  obtain ⟨call, made, rfl⟩ := List.mem_map.mp member
  obtain ⟨check, member, called⟩ := List.mem_filterMap.mp made
  refine bigintCall?_moves (fun known => ?_) called
  exact bigintBound_moves (clean.bound check member known)

theorem date_nests : date.Nests := by
  intro lines reading whole definition template clean ruled
  obtain ⟨calls, called, ruled⟩ := bind_eq_ok_iff.mp ruled
  cases ruled
  exact .single ((constructor_moves (by decide) _).append (.join (dateCalls_move called)))

theorem literalText_moves {lines : Bool} (value : Value) :
    Text.Moves lines [] (literalText value) [] := by
  unfold literalText
  split
  · exact quote_moves _
  · exact (Double.text_plain _).moves
  · split <;> exact .fixed (by decide)
  · exact (bigintText_plain _).moves
  · exact .fixed (by decide)
  · exact .fixed (by decide)
  · exact Value.jsonTextOrUndefined_moves _

theorem literal_nests : literal.Nests := by
  intro lines reading whole definition template clean ruled
  cases ruled
  have opening : Text.Moves lines [] "z.literal(" [.round] := .fixed (by decide)
  have closing : Text.Moves lines [.round] ")" [] := .fixed (by decide)
  exact .single ((opening.append ((literalText_moves _).between_brackets _)).append closing)

theorem enumeration_nests : enumeration.Nests := by
  intro lines reading whole definition template clean ruled
  cases ruled
  have opening : Text.Moves lines [] "z.enum([" [.square, .round] := .fixed (by decide)
  have closing : Text.Moves lines [.square, .round] "])" [] := .fixed (by decide)
  have comma : Text.Moves lines [] ", " [] := .fixed (by decide)
  have members : Text.Moves lines [] (", ".intercalate
      ((enumMembers definition.fields).map fun value => value.jsonText?.getD "null")) [] := by
    refine .intercalate comma fun text member => ?_
    obtain ⟨value, -, rfl⟩ := List.mem_map.mp member
    exact Value.jsonText?_getD_moves (some value) (.fixed (by decide))
  exact .single ((opening.append (members.between_brackets _)).append closing)

theorem nativeEnum_nests : nativeEnum.Nests := by
  intro lines reading whole definition template clean ruled
  cases ruled
  have opening : Text.Moves lines [] "z.nativeEnum(/* native enum */" [.round] :=
    .fixed (by decide)
  have closing : Text.Moves lines [.round] ")" [] := .fixed (by decide)
  have table : Text.Moves lines [] (enumTable definition.fields) [] :=
    Value.jsonText?_getD_moves _ (.fixed (by decide))
  exact .single ((opening.append (table.between_brackets _)).append closing)

section Children

variable {α : Type} {lines : Bool}

theorem discriminatedOf_moves (discriminator : Option Value) (options : List α) :
    (discriminatedOf discriminator options).Moves lines [] [] := by
  have opening : Text.Moves lines [] "z.discriminatedUnion(" [.round] := .fixed (by decide)
  have list : Text.Moves lines [.round] ", [" [.square, .round] := .fixed (by decide)
  have name : Text.Moves lines [] ((discriminator.bind Value.jsonText?).getD "undefined") [] :=
    Value.jsonText?_getD_moves _ (.fixed (by decide))
  exact .enclosed ((opening.append (name.between_brackets _)).append list) (.fixed (by decide))
    options

theorem unionOf_moves (options : List α) : (unionOf options).Moves lines [] [] := by
  have opening : Text.Moves lines [] "z.union([" [.square, .round] := .fixed (by decide)
  exact .enclosed opening (.fixed (by decide)) options

theorem effectOf_moves (inner : α) (effect : Option String) :
    (effectOf inner effect).Moves lines [] [] := by
  have opening : Text.Moves lines [] "z.preprocess(/* preprocess function */, " [.round] :=
    .fixed (by decide)
  unfold effectOf
  split
  · exact .hole _ (.single (.fixed (by decide)))
  · exact .hole _ (.single (.fixed (by decide)))
  · exact .text opening (.hole _ (.single (.fixed (by decide))))
  · exact .hole _ (.nil _)

theorem callWith_moves {method : String} (plain : IsPlain method) (arguments : List α) :
    (callWith method arguments).Moves lines [] [] := by
  have opening : Text.Moves lines [] ("." ++ method ++ "(") [.round] :=
    (IsPlain.append (by decide) plain).moves.append (.fixed (by decide))
  unfold callWith
  split
  · exact .nil []
  · exact .enclosed opening (.fixed (by decide)) arguments

theorem pipeTo_moves (input output : α) : (pipeTo input output).Moves lines [] [] := by
  have opening : Text.Moves lines [] ".pipe(" [.round] := .fixed (by decide)
  exact .hole _ (.text opening (.hole _ (.single (.fixed (by decide)))))

theorem childOr_moves (child : Option α) {missing : String}
    (moves : Text.Moves lines [] missing []) {before after : List Bracket} {rest : Template α}
    (later : rest.Moves lines before after) :
    Template.Moves lines before (childOr child missing :: rest) after := by
  cases child with
  | none => exact .text (moves.between_brackets before) later
  | some child => exact .hole child later

end Children

theorem modifier_nests {method : String} (plain : IsPlain method) : (modifier method).Nests := by
  intro lines reading whole definition template clean ruled
  have call : Text.Moves lines [] "()" [] := .fixed (by decide)
  have any : Text.Moves lines [] "z.any()." [] := .fixed (by decide)
  simp only [modifier] at ruled
  split at ruled <;> cases ruled
  · exact .hole _ (.single ((IsPlain.append (by decide) plain).moves.append call))
  · exact .single ((any.append plain.moves).append call)

theorem readonly_nests : readonly.Nests := by
  intro lines reading whole definition template clean ruled
  simp only [readonly] at ruled
  split at ruled <;> cases ruled
  · exact .hole _ (.single (.fixed (by decide)))
  · exact .single (.fixed (by decide))

theorem branded_nests : branded.Nests := by
  intro lines reading whole definition template clean ruled
  simp only [branded] at ruled
  split at ruled <;> cases ruled
  · exact .hole _ (.single (.fixed (by decide)))
  · exact .single (.fixed (by decide))

theorem lazy_nests : lazy.Nests := by
  intro lines reading whole definition template clean ruled
  cases ruled
  exact .single (.fixed (by decide))

theorem transform_nests : transform.Nests := by
  intro lines reading whole definition template clean ruled
  cases ruled
  exact .single (.fixed (by decide))

theorem argument_moves {lines : Bool} (kind : Fallback) (value : Option Value) :
    Text.Moves lines [] (kind.argument value) [] := by
  have word (value : Value) {missing : String} (fixed : Text.Moves lines [] missing []) :
      Text.Moves lines [] (value.primitiveText?.getD missing) [] := by
    cases has : value.primitiveText? with
    | none => exact fixed
    | some text => exact Value.primitiveText?_moves has
  unfold Fallback.argument
  split
  · exact .fixed (by decide)
  · exact .fixed (by decide)
  · unfold Fallback.ofOutcome
    split
    · exact word _ (.fixed (by decide))
    · exact .fixed (by decide)
  · exact word _ (.fixed (by decide))

theorem fallback_nests (kind : Fallback) : (fallback kind).Nests := by
  intro lines reading whole definition template clean ruled
  have plain : IsPlain kind.method := by cases kind <;> decide
  have opening : Text.Moves lines [] ("." ++ kind.method ++ "(") [.round] :=
    (IsPlain.append (by decide) plain).moves.append (.fixed (by decide))
  have closing : Text.Moves lines [.round] ")" [] := .fixed (by decide)
  simp only [fallback] at ruled
  split at ruled <;> cases ruled
  · exact .hole _ (.single ((opening.append ((argument_moves kind _).between_brackets _)).append
      closing))
  · exact .single (.fixed (by decide))

theorem promise_nests : promise.Nests := by
  intro lines reading whole definition template clean ruled
  have opening : Text.Moves lines [] "z.promise(" [.round] := .fixed (by decide)
  simp only [promise] at ruled
  split at ruled <;> cases ruled
  · exact .text opening (.hole _ (.single (.fixed (by decide))))
  · exact .single (.fixed (by decide))

theorem array_nests : array.Nests := by
  intro lines reading whole definition template clean ruled
  have opening : Text.Moves lines [] "z.array(" [.round] := .fixed (by decide)
  have closing : Text.Moves lines [.round] ")" [] := .fixed (by decide)
  have calls : Text.Moves lines []
      (String.join (boundCalls definition.fields arrayCounts "length")) [] :=
    .join (boundCalls_move clean (by decide) (by decide))
  simp only [array] at ruled
  split at ruled <;> cases ruled
  · exact .text opening (.hole _ (.single (closing.append calls)))
  · exact .single (.fixed (by decide))

theorem set_nests : set.Nests := by
  intro lines reading whole definition template clean ruled
  have opening : Text.Moves lines [] "z.set(" [.round] := .fixed (by decide)
  have closing : Text.Moves lines [.round] ")" [] := .fixed (by decide)
  have calls : Text.Moves lines []
      (String.join (boundCalls definition.fields setCounts "size")) [] :=
    .join (boundCalls_move clean (by decide) (by decide))
  simp only [set] at ruled
  split at ruled <;> cases ruled
  · exact .text opening (.hole _ (.single (closing.append calls)))
  · exact .single (.fixed (by decide))

theorem tuple_nests : tuple.Nests := by
  intro lines reading whole definition template clean ruled
  have opening : Text.Moves lines [] "z.tuple([" [.square, .round] := .fixed (by decide)
  have items : Template.Moves lines []
      (.text "z.tuple([" :: Template.list (definition.items "items") ++ [.text "])"]) [] :=
    .enclosed opening (.fixed (by decide)) _
  have rest : Text.Moves lines [] ".rest(" [.round] := .fixed (by decide)
  simp only [tuple] at ruled
  split at ruled <;> cases ruled
  · exact items.append (.text rest (.hole _ (.single (.fixed (by decide)))))
  · exact items

theorem keyed_nests {name : String} (plain : IsPlain name) : (keyed name).Nests := by
  intro lines reading whole definition template clean ruled
  cases ruled
  have opening : Text.Moves lines [] ("z." ++ name ++ "(") [.round] :=
    (IsPlain.append (by decide) plain).moves.append (.fixed (by decide))
  have comma : Text.Moves lines [.round] ", " [.round] := .fixed (by decide)
  have key : Text.Moves lines [] "z.string()" [] := .fixed (by decide)
  have value : Text.Moves lines [] "z.any()" [] := .fixed (by decide)
  exact .text opening (childOr_moves _ key (.text comma (childOr_moves _ value
    (.single (.fixed (by decide))))))

theorem union_nests : union.Nests := by
  intro lines reading whole definition template clean ruled
  simp only [union] at ruled
  split at ruled <;> cases ruled
  · exact discriminatedOf_moves _ _
  · exact unionOf_moves _

theorem discriminatedUnion_nests : discriminatedUnion.Nests := by
  intro lines reading whole definition template clean ruled
  cases ruled
  exact discriminatedOf_moves _ _

theorem intersection_nests : intersection.Nests := by
  intro lines reading whole definition template clean ruled
  have opening : Text.Moves lines [] "z.intersection(" [.round] := .fixed (by decide)
  have comma : Text.Moves lines [.round] ", " [.round] := .fixed (by decide)
  simp only [intersection] at ruled
  split at ruled <;> cases ruled
  · exact .text opening (.hole _ (.text comma (.hole _ (.single (.fixed (by decide))))))
  · exact .single (.fixed (by decide))

theorem effects_nests : effects.Nests := by
  intro lines reading whole definition template clean ruled
  simp only [effects] at ruled
  split at ruled <;> cases ruled
  · exact effectOf_moves _ _
  · exact .single (.fixed (by decide))

theorem pipe_nests : pipe.Nests := by
  intro lines reading whole definition template clean ruled
  simp only [pipe] at ruled
  split at ruled
  · cases ruled
    exact .single (.fixed (by decide))
  · split at ruled
    · cases ruled
      exact .hole _ (.nil _)
    · split at ruled <;> cases ruled
      · exact .hole _ (.single (.fixed (by decide)))
      · exact pipeTo_moves _ _

theorem pipeline_nests : pipeline.Nests := by
  intro lines reading whole definition template clean ruled
  simp only [pipeline] at ruled
  split at ruled <;> cases ruled
  · exact .single (.fixed (by decide))
  · exact pipeTo_moves _ _
  · exact .hole _ (.nil _)

theorem function_nests : function.Nests := by
  intro lines reading whole definition template clean ruled
  cases ruled
  have head : Text.Moves lines [] "z.function()" [] := .fixed (by decide)
  exact (Template.Moves.text head (callWith_moves (by decide) _)).append
    (callWith_moves (by decide) _)

theorem object_nests : object.Nests := by
  intro lines reading whole definition template clean ruled
  have opening : Text.Moves lines [] "z.object(" [.round] := .fixed (by decide)
  have closing : Text.Moves lines [.round] ")" [] := .fixed (by decide)
  have policy (policy : KeyPolicy) : Text.Moves lines [] policy.text [] := by
    cases policy <;> exact .fixed (by decide)
  have catchall : Text.Moves lines [] ".catchall(" [.round] := .fixed (by decide)
  obtain ⟨shape, -, ruled⟩ := bind_eq_ok_iff.mp ruled
  cases shape with
  | none =>
    cases ruled
    exact .single (.fixed (by decide))
  | some shape =>
    have properties (unknown : KeyPolicy) : Template.Moves lines []
        [.text "z.object(", .block shape.entries, .text (")" ++ unknown.text)] [] :=
      .text opening (.block _ (.single (closing.append (policy unknown))))
    simp only at ruled
    split at ruled <;> cases ruled
    · exact (properties _).append (.text catchall (.hole _ (.single (.fixed (by decide)))))
    · exact properties _

end Rule

theorem Kind.rule_nests (kind : Kind) : kind.rule.Nests := by
  cases kind with
  | string => exact Rule.string_nests
  | number => exact Rule.number_nests
  | boolean => exact Rule.boolean_nests
  | bigint => exact Rule.bigint_nests
  | date => exact Rule.date_nests
  | literal => exact Rule.literal_nests
  | enumeration => exact Rule.enumeration_nests
  | nativeEnum => exact Rule.nativeEnum_nests
  | optional | nullable | nullish => exact Rule.modifier_nests (by decide)
  | default | recovery => exact Rule.fallback_nests _
  | array => exact Rule.array_nests
  | object => exact Rule.object_nests
  | record | map => exact Rule.keyed_nests (by decide)
  | set => exact Rule.set_nests
  | tuple => exact Rule.tuple_nests
  | union => exact Rule.union_nests
  | discriminatedUnion => exact Rule.discriminatedUnion_nests
  | intersection => exact Rule.intersection_nests
  | lazy => exact Rule.lazy_nests
  | promise => exact Rule.promise_nests
  | function => exact Rule.function_nests
  | effects => exact Rule.effects_nests
  | pipe => exact Rule.pipe_nests
  | transform => exact Rule.transform_nests
  | pipeline => exact Rule.pipeline_nests
  | branded => exact Rule.branded_nests
  | readonly => exact Rule.readonly_nests
  | _ => exact Rule.bare_nests (by decide)

end SchemaSource
