import SchemaSource.Proofs.Agreement
import SchemaSource.Proofs.Spelling
/-!
What the bounds of a number or a big integer say once they are written. A strict bound keeps its
strictness at zero, where it has a method of its own, and loses it everywhere else: the text then
admits the bound itself.
-/
namespace SchemaSource

open Rule

/-! ## Checks -/

/-- A bound or a divisor that is an integer. -/
abbrev IntegerCheck := RangeCheck Int []

namespace IntegerCheck

/-- The integer of a check. -/
def bound : IntegerCheck → Int
  | .least _ n | .greatest _ n | .multipleOf n => n

def Admits (x : Int) : IntegerCheck → Prop
  | .least inclusive n => if inclusive then n ≤ x else n < x
  | .greatest inclusive n => if inclusive then x ≤ n else x < n
  | .multipleOf n => n ∣ x

/-- A strict bound other than zero. -/
def strictBound? : IntegerCheck → Option Int
  | .least false n | .greatest false n => if n = 0 then none else some n
  | _ => none

/-- The check lets an integer pass, or would if it were not strict. -/
def AdmitsLoosely (x : Int) (check : IntegerCheck) : Prop :=
  check.Admits x ∨ check.strictBound? = some x

end IntegerCheck

/-- The integer check that a check of a number comes down to. -/
def NumberCheck.integer? : NumberCheck → Option IntegerCheck
  | .least inclusive x => x.integer?.map (.least inclusive)
  | .greatest inclusive x => x.integer?.map (.greatest inclusive)
  | .multipleOf x => x.integer?.map .multipleOf
  | .method .. => none

/-- The check of a big integer with the same bound. -/
def IntegerCheck.toBigint : IntegerCheck → BigintCheck
  | .least inclusive n => .least inclusive n
  | .greatest inclusive n => .greatest inclusive n
  | .multipleOf n => .multipleOf n

/-! ## Calls -/

/-- Methods that say their bound by their name. -/
inductive NamedBound where
  | positive
  | nonnegative
  | negative
  | nonpositive
  | safe

def NamedBound.method : NamedBound → String
  | .positive => "positive"
  | .nonnegative => "nonnegative"
  | .negative => "negative"
  | .nonpositive => "nonpositive"
  | .safe => "safe"

def NamedBound.Admits (x : Int) : NamedBound → Prop
  | .positive => 0 < x
  | .nonnegative => 0 ≤ x
  | .negative => x < 0
  | .nonpositive => x ≤ 0
  | .safe => -Numeral.greatestSafe ≤ x ∧ x ≤ Numeral.greatestSafe

/-- A call in the text of a number or a big integer. -/
inductive BoundCall where
  | min (bound : Spelling)
  | max (bound : Spelling)
  | multipleOf (bound : Spelling)
  | named (bound : NamedBound)

namespace BoundCall

def text (suffix : String) : BoundCall → String
  | .min bound => callText "min" (bound.text suffix)
  | .max bound => callText "max" (bound.text suffix)
  | .multipleOf bound => callText "multipleOf" (bound.text suffix)
  | .named bound => callText bound.method ""

/-- The integers that a call lets pass. -/
def Admits (x : Int) : BoundCall → Prop
  | .min bound => bound.value ≤ x
  | .max bound => x ≤ bound.value
  | .multipleOf bound => bound.value ∣ x
  | .named bound => bound.Admits x

/-- A lower bound as it is written. -/
def lower (spell : Int → Spelling) (inclusive : Bool) (n : Int) : BoundCall :=
  if n = 0 then .named (if inclusive then .nonnegative else .positive) else .min (spell n)

/-- An upper bound as it is written. -/
def upper (spell : Int → Spelling) (inclusive : Bool) (n : Int) : BoundCall :=
  if n = 0 then .named (if inclusive then .nonpositive else .negative) else .max (spell n)

end BoundCall

/-- An integer lets every call of a chain pass. -/
def Accepts (chain : List BoundCall) (x : Int) : Prop := ∀ call ∈ chain, call.Admits x

/-- The call for a check, as big integers write all of them. -/
def IntegerCheck.call (spell : Int → Spelling) : IntegerCheck → BoundCall
  | .least inclusive n => .lower spell inclusive n
  | .greatest inclusive n => .upper spell inclusive n
  | .multipleOf n => .multipleOf (spell n)

/-- The chain of a big integer. -/
def bigintChain (given : List IntegerCheck) : List BoundCall :=
  given.map (IntegerCheck.call (Spelling.choose {} Numeral.ofBigint))

/-- A lower bound at the least safe integer, which is allowed itself. -/
def IntegerCheck.isLeastSafe (check : IntegerCheck) : Bool :=
  match check with
  | .least inclusive n => inclusive && n == -Numeral.greatestSafe
  | _ => false

def IntegerCheck.isGreatestSafe (check : IntegerCheck) : Bool :=
  match check with
  | .greatest inclusive n => inclusive && n == Numeral.greatestSafe
  | _ => false

/-- The call for a check of a number. The greatest safe integer has a method of its own once the
least one has been seen. -/
def IntegerCheck.numberCall (afterLeastSafe : Bool) (check : IntegerCheck) : BoundCall :=
  if afterLeastSafe && check.isGreatestSafe then .named .safe
  else check.call (Spelling.choose {} Numeral.ofNumber)

theorem IntegerCheck.numberCall_of_other {check : IntegerCheck}
    (other : check.isGreatestSafe = false) (afterLeastSafe : Bool) :
    check.numberCall afterLeastSafe = check.call (Spelling.choose {} Numeral.ofNumber) := by
  rw [numberCall, other, Bool.and_false]
  rfl

/-- The chain of a number. -/
def numberChain (afterLeastSafe : Bool) : List IntegerCheck → List BoundCall
  | [] => []
  | check :: rest =>
    check.numberCall afterLeastSafe :: numberChain (afterLeastSafe || check.isLeastSafe) rest

/-! ## What a chain accepts -/

theorem IntegerCheck.not_admits_strictBound {check : IntegerCheck} {n : Int}
    (strict : check.strictBound? = some n) : ¬check.Admits n := by
  cases check with
  | least inclusive m => cases inclusive <;> simp [strictBound?, Admits] at strict ⊢; omega
  | greatest inclusive m => cases inclusive <;> simp [strictBound?, Admits] at strict ⊢; omega
  | multipleOf m => cases strict
  | method name known => cases known

theorem IntegerCheck.call_admits {spell : Int → Spelling} (exact : ∀ n, (spell n).value = n)
    (check : IntegerCheck) (x : Int) : (check.call spell).Admits x ↔ check.AdmitsLoosely x := by
  unfold AdmitsLoosely
  cases check with
  | least inclusive n =>
    by_cases zero : n = 0
    · cases inclusive <;>
        simp [call, BoundCall.lower, Admits, BoundCall.Admits, NamedBound.Admits, strictBound?,
          zero]
    · cases inclusive <;>
        simp [call, BoundCall.lower, Admits, BoundCall.Admits, strictBound?, zero, exact]
      omega
  | greatest inclusive n =>
    by_cases zero : n = 0
    · cases inclusive <;>
        simp [call, BoundCall.upper, Admits, BoundCall.Admits, NamedBound.Admits, strictBound?,
          zero]
    · cases inclusive <;>
        simp [call, BoundCall.upper, Admits, BoundCall.Admits, strictBound?, zero, exact]
      omega
  | multipleOf n => simp [call, Admits, BoundCall.Admits, strictBound?, exact]
  | method name known => cases known

theorem bigintChain_accepts (given : List IntegerCheck) (x : Int) :
    Accepts (bigintChain given) x ↔ ∀ check ∈ given, check.AdmitsLoosely x := by
  have each (check : IntegerCheck) :=
    check.call_admits (Spelling.value_choose {} Numeral.ofBigint) x
  simp only [Accepts, bigintChain, List.forall_mem_map, each]

theorem IntegerCheck.least_of_isLeastSafe {check : IntegerCheck} (least : check.isLeastSafe = true)
    {x : Int} (admits : check.AdmitsLoosely x) : -Numeral.greatestSafe ≤ x := by
  cases check with
  | least inclusive n =>
    simp only [isLeastSafe, Bool.and_eq_true, beq_iff_eq] at least
    simpa [AdmitsLoosely, Admits, strictBound?, least.1, least.2] using admits
  | greatest inclusive n => cases least
  | multipleOf n => cases least
  | method name known => cases known

/-- Above the least safe integer, being safe is being at most the greatest. -/
theorem IntegerCheck.safe_admits {check : IntegerCheck} (greatest : check.isGreatestSafe = true)
    {x : Int} (above : -Numeral.greatestSafe ≤ x) :
    NamedBound.safe.Admits x ↔ check.AdmitsLoosely x := by
  cases check with
  | greatest inclusive n =>
    simp only [isGreatestSafe, Bool.and_eq_true, beq_iff_eq] at greatest
    simp [AdmitsLoosely, Admits, strictBound?, NamedBound.Admits, greatest.1, greatest.2, above]
  | least inclusive n => cases greatest
  | multipleOf n => cases greatest
  | method name known => cases known

/-- The least safe integer, once seen, bounds what is left to decide. -/
theorem numberChain_accepts (given : List IntegerCheck) (x : Int) (afterLeastSafe : Bool)
    (seen : afterLeastSafe = true → -Numeral.greatestSafe ≤ x) :
    Accepts (numberChain afterLeastSafe given) x ↔
      ∀ check ∈ given, check.AdmitsLoosely x := by
  induction given generalizing afterLeastSafe with
  | nil => simp [Accepts, numberChain]
  | cons check rest ih =>
    have head : (check.numberCall afterLeastSafe).Admits x ↔ check.AdmitsLoosely x := by
      unfold IntegerCheck.numberCall
      split
      next safe =>
        rw [Bool.and_eq_true] at safe
        exact IntegerCheck.safe_admits safe.2 (seen safe.1)
      next => exact check.call_admits (Spelling.value_choose {} Numeral.ofNumber) x
    have tail (admits : check.AdmitsLoosely x) :=
      ih (afterLeastSafe || check.isLeastSafe) fun either => by
        rcases Bool.or_eq_true _ _ ▸ either with after | least
        · exact seen after
        · exact IntegerCheck.least_of_isLeastSafe least admits
    simp only [Accepts, numberChain, List.forall_mem_cons, head]
    constructor
    · rintro ⟨admits, accepts⟩
      exact ⟨admits, (tail admits).mp accepts⟩
    · rintro ⟨admits, others⟩
      exact ⟨admits, (tail admits).mpr others⟩

/-- A chain says of the integers what checks say of them, but for the strictness of bounds other
than zero. -/
structure SaysLoosely (chain : List BoundCall) (given : List IntegerCheck) : Prop where
  accepts_iff (x : Int) : Accepts chain x ↔ ∀ check ∈ given, check.AdmitsLoosely x
  /-- The two agree just where the chain refuses every such bound for a reason of its own. -/
  agrees_iff : (∀ x, Accepts chain x ↔ ∀ check ∈ given, check.Admits x) ↔
    ∀ check ∈ given, ∀ n, check.strictBound? = some n → ¬Accepts chain n

theorem SaysLoosely.of_accepts_iff {chain : List BoundCall} {given : List IntegerCheck}
    (accepts : ∀ x, Accepts chain x ↔ ∀ check ∈ given, check.AdmitsLoosely x) :
    SaysLoosely chain given := by
  refine ⟨accepts, ?_, ?_⟩
  · intro agree check member n strict accepted
    exact IntegerCheck.not_admits_strictBound strict ((agree n).mp accepted check member)
  · intro refused x
    constructor
    · intro accepted check member
      rcases (accepts x).mp accepted check member with admits | strict
      · exact admits
      · exact absurd accepted (refused check member x strict)
    · intro admits
      exact (accepts x).mpr fun check member => .inl (admits check member)

/-! ## The text of a chain -/

section Text

variable {inclusive : Bool} {n : Int} {suffix : String} {spell : Int → Spelling}

theorem lowerCall_text (check : Check) (bound : Option Value → String)
    (flag : check.inclusive = some inclusive)
    (spelled : bound check.resolved = (spell n).text suffix) :
    (lowerCall true (n == 0) check).text bound =
      (BoundCall.lower spell inclusive n).text suffix := by
  rw [lowerCall, flag, BoundCall.lower]
  by_cases zero : n = 0
  · rw [zero]
    cases inclusive <;> rfl
  · rw [beq_false_of_ne zero, if_neg zero]
    exact congrArg (callText "min") spelled

theorem upperCall_text (check : Check) (bound : Option Value → String)
    (flag : check.inclusive = some inclusive)
    (spelled : bound check.resolved = (spell n).text suffix) :
    (upperCall true (n == 0) check).text bound =
      (BoundCall.upper spell inclusive n).text suffix := by
  rw [upperCall, flag, BoundCall.upper]
  by_cases zero : n = 0
  · rw [zero]
    cases inclusive <;> rfl
  · rw [beq_false_of_ne zero, if_neg zero]
    exact congrArg (callText "max") spelled

end Text

theorem isLeastSafe_check {check : NumberCheck} {given : IntegerCheck}
    (integer : check.integer? = some given) :
    isLeastSafe (check.check .number) = given.isLeastSafe := by
  cases check with
  | least inclusive x =>
    obtain ⟨n, read, rfl⟩ := Option.map_eq_some_iff.mp integer
    rw [isLeastSafe, boundIs_eq rfl read]
    cases inclusive <;> rfl
  | greatest inclusive x =>
    obtain ⟨n, read, rfl⟩ := Option.map_eq_some_iff.mp integer
    rfl
  | multipleOf x =>
    obtain ⟨n, read, rfl⟩ := Option.map_eq_some_iff.mp integer
    rfl
  | method name known => cases integer

theorem numberCall?_check {check : NumberCheck} {given : IntegerCheck}
    (integer : check.integer? = some given) (small : given.bound.natAbs ≤ 2 ^ 53) (after : Bool) :
    (numberCall? true after (check.check .number)).map (·.text (numberBound {})) =
      some ((given.numberCall after).text "") := by
  cases check with
  | least inclusive x =>
    obtain ⟨n, read, rfl⟩ := Option.map_eq_some_iff.mp integer
    let check : Check := { kind := "min", value := some (.number x), inclusive }
    have zero : boundIs 0 check = (n == 0) := boundIs_eq rfl read 0
    have text :=
      lowerCall_text check (numberBound {}) rfl (Optimizations.numberText_eq {} read small)
    rw [← zero] at text
    rw [IntegerCheck.numberCall_of_other rfl]
    exact congrArg some text
  | greatest inclusive x =>
    obtain ⟨n, read, rfl⟩ := Option.map_eq_some_iff.mp integer
    let check : Check := { kind := "max", value := some (.number x), inclusive }
    have zero : boundIs 0 check = (n == 0) := boundIs_eq rfl read 0
    have greatest : isGreatestSafe check = IntegerCheck.isGreatestSafe (.greatest inclusive n) := by
      rw [isGreatestSafe, boundIs_eq rfl read]
      cases inclusive <;> rfl
    have text :=
      upperCall_text check (numberBound {}) rfl (Optimizations.numberText_eq {} read small)
    rw [← zero] at text
    have call : numberCall? true after check =
        some (if after && isGreatestSafe check then .flag "safe"
          else upperCall true (boundIs 0 check) check) := rfl
    refine (congrArg (Option.map _) call).trans ?_
    rw [greatest, IntegerCheck.numberCall]
    cases after && IntegerCheck.isGreatestSafe (.greatest inclusive n) with
    | true => rfl
    | false => exact congrArg some text
  | multipleOf x =>
    obtain ⟨n, read, rfl⟩ := Option.map_eq_some_iff.mp integer
    have spelled := Optimizations.numberText_eq {} read small
    rw [IntegerCheck.numberCall_of_other rfl]
    exact congrArg (fun text => some (callText "multipleOf" text)) spelled
  | method name known => cases integer

theorem numberCalls_text {checks : List NumberCheck} {given : List IntegerCheck}
    (integers : checks.map NumberCheck.integer? = given.map some)
    (small : ∀ check ∈ given, check.bound.natAbs ≤ 2 ^ 53) (after : Bool) :
    (numberCalls true after (checks.map (RangeCheck.check .number))).map
        (·.text (numberBound {})) =
      (numberChain after given).map (BoundCall.text "") := by
  induction checks generalizing given after with
  | nil =>
    cases given with
    | nil => rfl
    | cons check rest => cases integers
  | cons check rest ih =>
    cases given with
    | nil => cases integers
    | cons first others =>
      obtain ⟨integer, integers⟩ := List.cons.inj integers
      obtain ⟨smallFirst, smallOthers⟩ := List.forall_mem_cons.mp small
      have here := numberCall?_check integer smallFirst after
      obtain ⟨call, found, text⟩ := Option.map_eq_some_iff.mp here
      simp only [List.map_cons, numberCalls, numberChain, found, isLeastSafe_check integer,
        Option.toList_some, List.singleton_append, text, ih integers smallOthers]

theorem bigintCall?_check (check : IntegerCheck) :
    (bigintCall? true (check.toBigint.check .bigint)).map (·.text (bigintBound {})) =
      some ((check.call (Spelling.choose {} Numeral.ofBigint)).text "n") := by
  cases check with
  | least inclusive n =>
    exact congrArg some (lowerCall_text { kind := "min", value := some (.bigint n), inclusive }
      (bigintBound {}) rfl (Optimizations.bigintText_eq {} n))
  | greatest inclusive n =>
    exact congrArg some (upperCall_text { kind := "max", value := some (.bigint n), inclusive }
      (bigintBound {}) rfl (Optimizations.bigintText_eq {} n))
  | multipleOf n =>
    exact congrArg (fun text => some (callText "multipleOf" text))
      (Optimizations.bigintText_eq {} n)
  | method name known => cases known

theorem bigintCalls_text (given : List IntegerCheck) :
    (((given.map IntegerCheck.toBigint).map (RangeCheck.check .bigint)).filterMap
        (bigintCall? true)).map (·.text (bigintBound {})) =
      (bigintChain given).map (BoundCall.text "n") := by
  induction given with
  | nil => rfl
  | cons check rest ih =>
    obtain ⟨call, found, text⟩ := Option.map_eq_some_iff.mp (bigintCall?_check check)
    simp only [List.map_cons, List.filterMap_cons, found, bigintChain, text]
    exact congrArg _ ih

/-! ## Both kinds, in either layout -/

/-- **Strictness is said at zero only.** The text of a number or a big integer with integer bounds
accepts the integers that its checks admit, and beside them every strict bound other than zero that
nothing else in the chain refuses. -/
theorem render_bounds {version layout : Version} (reads : version.dialect.Reads layout)
    (coerce : Bool) (given : List IntegerCheck) :
    (∀ checks : List NumberCheck, checks.map NumberCheck.integer? = given.map some →
      (∀ check ∈ given, check.bound.natAbs ≤ 2 ^ 53) →
        (Renderer.ofVersion version).render {}
            ((Schema.number coerce checks).encode (.all layout)) =
            .ok (constructorText coerce "number"
              ++ String.join ((numberChain false given).map (BoundCall.text ""))) ∧
          SaysLoosely (numberChain false given) given) ∧
      (Renderer.ofVersion version).render {}
            ((Schema.bigint coerce (given.map IntegerCheck.toBigint)).encode (.all layout)) =
          .ok (constructorText coerce "bigint"
            ++ String.join ((bigintChain given).map (BoundCall.text "n"))) ∧
        SaysLoosely (bigintChain given) given := by
  refine ⟨?_, ?_, ?_⟩
  · intro checks integers small
    have fits : (Schema.number coerce checks).HasLayout layout := trivial
    refine ⟨Schema.textAt_leaf reads fits ?_, ?_⟩
    · rw [← numberCalls_text integers small]
      rfl
    · exact .of_accepts_iff fun x => numberChain_accepts given x false nofun
  · have fits : (Schema.bigint coerce (given.map IntegerCheck.toBigint)).HasLayout layout := trivial
    refine Schema.textAt_leaf reads fits ?_
    rw [← bigintCalls_text]
    rfl
  · exact .of_accepts_iff (bigintChain_accepts given)

/-- A strict bound at five admits five once it is written. -/
theorem render_strict_bound :
    Version.v4.dialect.Reads .v4 ∧
      (Renderer.ofVersion .v4).render {}
          ((Schema.number false [.least false (.ofInt 5)]).encode (.all .v4)) =
        .ok "z.number().min(5)" ∧
      Accepts (numberChain false [.least false 5]) 5 ∧
      ¬IntegerCheck.Admits 5 (.least false 5) := by
  have reads : Version.v4.dialect.Reads .v4 := .kinds
  have five : (Double.ofInt 5).integer? = some 5 := Double.integer?_ofInt (by decide)
  have integers : [NumberCheck.integer? (.least false (.ofInt 5))] =
      [some (.least false 5 : IntegerCheck)] := by
    rw [NumberCheck.integer?, five]
    rfl
  obtain ⟨text, loosely⟩ := (render_bounds reads false [.least false 5]).1
    [.least false (.ofInt 5)] integers (by simp [IntegerCheck.bound])
  refine ⟨reads, text, ?_, by simp [IntegerCheck.Admits]⟩
  rw [loosely.accepts_iff]
  simp [IntegerCheck.AdmitsLoosely, IntegerCheck.strictBound?]

/-- The bound of a strict check is kept and its strictness is not. -/
theorem strict_bound_not_kept :
    let chain := [BoundCall.min (.digits 5)]
    let check : IntegerCheck := .least false 5
    (Renderer.ofVersion .v4).render {}
        ((Schema.number false [.least false (.ofInt 5)]).encode (.all .v4)) =
      .ok ("z.number()" ++ String.join (chain.map (BoundCall.text ""))) ∧
      ¬∀ x, Accepts chain x ↔ check.Admits x := by
  intro chain check
  have text : (Renderer.ofVersion .v4).render {}
      ((Schema.number false [.least false (.ofInt 5)]).encode (.all .v4)) =
        .ok ("z.number()" ++ String.join (chain.map (BoundCall.text ""))) := by
    decide +kernel
  refine ⟨text, fun agrees => ?_⟩
  have five : Accepts chain 5 := by
    simp [chain, Accepts, BoundCall.Admits, Spelling.value]
  exact absurd ((agrees 5).mp five) (by simp [check, IntegerCheck.Admits])

end SchemaSource
