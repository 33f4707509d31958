import Mathlib.Data.List.Forall2
import SchemaSource.Proofs.Bounds
import SchemaSource.Proofs.Faults
import SchemaSource.Proofs.Normalization
import SchemaSource.Proofs.NumeralText
/-!
Bounds that are allowed themselves, under all optimizations. The optimizations choose between
spellings of the same condition. The pair of safe integers is the one place where a call depends on
the checks before it.
-/
namespace SchemaSource

open Rule

/-! ## Checks -/

/-- A check of a number or a big integer with an integer bound that is allowed itself. A bound may
say so by a flag, or say nothing. -/
inductive InclusiveCheck where
  | least (flagged : Bool) (n : Int)
  | greatest (flagged : Bool) (n : Int)
  | multipleOf (n : Int)
  | int
  deriving DecidableEq

namespace InclusiveCheck

def Admits (x : Int) : InclusiveCheck → Prop
  | .least _ n => n ≤ x
  | .greatest _ n => x ≤ n
  | .multipleOf n => n ∣ x
  | .int => True

def bound? : InclusiveCheck → Option Int
  | .least _ n | .greatest _ n | .multipleOf n => some n
  | .int => none

/-- The methods that may stand for a check. -/
def methods : InclusiveCheck → List String
  | .least .. => ["min", "nonnegative"]
  | .greatest .. => ["max", "nonpositive", "safe"]
  | .multipleOf _ => ["multipleOf"]
  | .int => ["int"]

/-- A lower bound at the least safe integer, which says that it is allowed itself. -/
def leastSafe : InclusiveCheck := .least true (-Numeral.greatestSafe)

def greatestSafe : InclusiveCheck := .greatest true Numeral.greatestSafe

end InclusiveCheck

/-- The two kinds of schema whose checks have integer bounds. -/
inductive IntegerKind where
  | number
  | bigint
  deriving DecidableEq

namespace IntegerKind

def kind : IntegerKind → Kind
  | .number => .number
  | .bigint => .bigint

/-- What all literals of a kind end with. -/
def suffix : IntegerKind → String
  | .number => ""
  | .bigint => "n"

def symbols : IntegerKind → List Numeral
  | .number => Numeral.ofNumber
  | .bigint => Numeral.ofBigint

/-- The integer that a bound holds. Those of numbers are not so large that doubles skip any. -/
def integer? : IntegerKind → Value → Option Int
  | .number, .number x => x.integer?.filter (·.natAbs ≤ 2 ^ 53)
  | .bigint, .bigint n => some n
  | _, _ => none

/-- An entry of a list of checks that states a check of a kind. Only numbers have one without a
bound. -/
inductive States (kind : IntegerKind) (entry : Value) : InclusiveCheck → Prop
  | least {flagged : Bool} {n : Int} {value : Value} (bound : kind.integer? value = some n)
      (states : entry.States "min" (some value) (if flagged then some true else none)) :
      States kind entry (.least flagged n)
  | greatest {flagged : Bool} {n : Int} {value : Value} (bound : kind.integer? value = some n)
      (states : entry.States "max" (some value) (if flagged then some true else none)) :
      States kind entry (.greatest flagged n)
  | multipleOf {n : Int} {value : Value} {allowed : Option Bool}
      (bound : kind.integer? value = some n)
      (states : entry.States "multipleOf" (some value) allowed) :
      States kind entry (.multipleOf n)
  | int {held : Option Value} {allowed : Option Bool} (numbers : kind = .number)
      (states : entry.States "int" held allowed) : States kind entry .int

/-- The same of what an entry comes to. -/
inductive Holds (kind : IntegerKind) (check : Check) : InclusiveCheck → Prop
  | least {flagged : Bool} {n : Int} (named : check.kind = "min")
      (bound : check.resolved.bind kind.integer? = some n)
      (flag : check.inclusive = if flagged then some true else none) :
      Holds kind check (.least flagged n)
  | greatest {flagged : Bool} {n : Int} (named : check.kind = "max")
      (bound : check.resolved.bind kind.integer? = some n)
      (flag : check.inclusive = if flagged then some true else none) :
      Holds kind check (.greatest flagged n)
  | multipleOf {n : Int} (named : check.kind = "multipleOf")
      (bound : check.resolved.bind kind.integer? = some n) :
      Holds kind check (.multipleOf n)
  | int (numbers : kind = .number) (named : check.kind = "int") : Holds kind check .int

theorem states_iff {kind : IntegerKind} {entry : Value} {check : InclusiveCheck} :
    kind.States entry check ↔ ∃ c, Check.ofEntry? entry = some c ∧ kind.Holds c check := by
  constructor
  · intro states
    cases states with
    | least bound states =>
      obtain ⟨c, read, named, value, flag⟩ := Value.states_iff.mp states
      exact ⟨c, read, .least named (by rw [value]; exact bound) flag⟩
    | greatest bound states =>
      obtain ⟨c, read, named, value, flag⟩ := Value.states_iff.mp states
      exact ⟨c, read, .greatest named (by rw [value]; exact bound) flag⟩
    | multipleOf bound states =>
      obtain ⟨c, read, named, value, -⟩ := Value.states_iff.mp states
      exact ⟨c, read, .multipleOf named (by rw [value]; exact bound)⟩
    | int numbers states =>
      obtain ⟨c, read, named, -⟩ := Value.states_iff.mp states
      exact ⟨c, read, .int numbers named⟩
  · rintro ⟨c, read, holds⟩
    cases holds with
    | least named bound flag =>
      obtain ⟨value, held, bound⟩ := Option.bind_eq_some_iff.mp bound
      exact .least bound (Value.states_iff.mpr ⟨c, read, named, held, flag⟩)
    | greatest named bound flag =>
      obtain ⟨value, held, bound⟩ := Option.bind_eq_some_iff.mp bound
      exact .greatest bound (Value.states_iff.mpr ⟨c, read, named, held, flag⟩)
    | multipleOf named bound =>
      obtain ⟨value, held, bound⟩ := Option.bind_eq_some_iff.mp bound
      exact .multipleOf bound (Value.states_iff.mpr ⟨c, read, named, held, rfl⟩)
    | int numbers named =>
      exact .int numbers (Value.states_iff.mpr ⟨c, read, named, rfl, rfl⟩)

theorem checksState_iff {kind : IntegerKind} {definition : Fields} {given : List InclusiveCheck} :
    definition.ChecksState kind.States given ↔ List.Forall₂ kind.Holds definition.checks given :=
  Fields.checksState_iff (R := kind.States) states_iff

end IntegerKind

/-! ## Calls -/

/-- A call as it is written. -/
structure WrittenCall where
  method : String
  argument : Option String := none

namespace WrittenCall

def text (call : WrittenCall) : String := callText call.method (call.argument.getD "")

/-- The integer that the argument of a call denotes. -/
def bound? (suffix : String) (call : WrittenCall) : Option Int :=
  call.argument.bind (Numeral.evaluate? suffix)

/-- The integers that a call lets pass. -/
def Admits (suffix : String) (x : Int) (call : WrittenCall) : Prop :=
  match call.method with
  | "min" => ∃ n ∈ call.bound? suffix, n ≤ x
  | "max" => ∃ n ∈ call.bound? suffix, x ≤ n
  | "multipleOf" => ∃ n ∈ call.bound? suffix, n ∣ x
  | "positive" => 0 < x
  | "nonnegative" => 0 ≤ x
  | "negative" => x < 0
  | "nonpositive" => x ≤ 0
  | "safe" => -Numeral.greatestSafe ≤ x ∧ x ≤ Numeral.greatestSafe
  | "int" => True
  | _ => False

theorem admits_of_safe {suffix : String} {x : Int} {call : WrittenCall}
    (safe : call.method = "safe") :
    call.Admits suffix x ↔ -Numeral.greatestSafe ≤ x ∧ x ≤ Numeral.greatestSafe := by
  unfold Admits
  rw [safe]
  exact Iff.rfl

end WrittenCall

/-- A call as it is written, given how its bound is. -/
def Rule.RangeCall.written (bound : Option Value → String) : RangeCall → WrittenCall
  | .min value => ⟨"min", some (bound value)⟩
  | .max value => ⟨"max", some (bound value)⟩
  | .multipleOf value => ⟨"multipleOf", some (bound value)⟩
  | .flag method => ⟨method, none⟩

theorem Rule.RangeCall.text_written (bound : Option Value → String) (call : RangeCall) :
    (call.written bound).text = call.text bound := by
  cases call <;> rfl

section Chain

variable (kind : IntegerKind) (o : Optimizations)

/-- An integer as the literals of a kind spell it. -/
def IntegerKind.spelled (n : Int) : String := (Spelling.choose o kind.symbols n).text kind.suffix

/-- The call for a check, given whether the least safe integer is among the checks before it. -/
def InclusiveCheck.call (seen : Bool) (check : InclusiveCheck) : WrittenCall :=
  match check with
  | .least flagged n =>
    if o.semanticMethods && flagged && n == 0 then ⟨"nonnegative", none⟩
    else ⟨"min", some (kind.spelled o n)⟩
  | .greatest flagged n =>
    if kind == .number && o.semanticMethods && seen && check == greatestSafe then ⟨"safe", none⟩
    else if o.semanticMethods && flagged && n == 0 then ⟨"nonpositive", none⟩
    else ⟨"max", some (kind.spelled o n)⟩
  | .multipleOf n => ⟨"multipleOf", some (kind.spelled o n)⟩
  | .int => ⟨"int", none⟩

/-- The calls for checks, after others that may have had the least safe integer among them. -/
def callChain (seen : Bool) : List InclusiveCheck → List WrittenCall
  | [] => []
  | check :: rest =>
    check.call kind o seen :: callChain (seen || check == .leastSafe) rest

end Chain

/-! ## What calls say -/

section Meaning

variable {kind : IntegerKind} {o : Optimizations} {seen : Bool}

theorem IntegerKind.evaluate?_spelled (kind : IntegerKind) (o : Optimizations) (n : Int) :
    Numeral.evaluate? kind.suffix (kind.spelled o n) = some n := by
  cases kind with
  | number => exact Spelling.evaluate?_choose (.inl rfl) Numeral.exact_ofNumber o n
  | bigint => exact Spelling.evaluate?_choose (.inr rfl) Numeral.exact_ofBigint o n

theorem IntegerKind.spelled_plain (kind : IntegerKind) (plain : o.scientificNotation = false)
    (n : Int) : kind.spelled o n = toString n ++ kind.suffix := by
  rw [spelled, Spelling.choose, plain]
  rfl

namespace InclusiveCheck

theorem method_call_mem (check : InclusiveCheck) :
    (check.call kind o seen).method ∈ check.methods := by
  cases check with
  | least flagged n =>
    rw [call]
    split <;> simp [methods]
  | greatest flagged n =>
    rw [call]
    split
    · simp [methods]
    · split <;> simp [methods]
  | multipleOf n => simp [call, methods]
  | int => simp [call, methods]

theorem method_call_eq_safe_iff (check : InclusiveCheck) :
    (check.call kind o seen).method = "safe" ↔
      kind = .number ∧ o.semanticMethods = true ∧ seen = true ∧ check = .greatestSafe := by
  cases check with
  | least flagged n =>
    rw [call]
    split <;> simp [greatestSafe]
  | greatest flagged n =>
    rw [call]
    split
    next safe => simpa [and_assoc] using safe
    next other =>
      have other : ¬(kind = .number ∧ o.semanticMethods = true ∧ seen = true ∧
          InclusiveCheck.greatest flagged n = .greatestSafe) := by
        simpa [and_assoc] using other
      split <;> simp [other]
  | multipleOf n => simp [call, greatestSafe]
  | int => simp [call, greatestSafe]

/-- A call says what its check says, whatever the spelling. -/
theorem call_admits (check : InclusiveCheck) (other : (check.call kind o seen).method ≠ "safe")
    (x : Int) : (check.call kind o seen).Admits kind.suffix x ↔ check.Admits x := by
  have bound (method : String) (n : Int) :
      WrittenCall.bound? kind.suffix ⟨method, some (kind.spelled o n)⟩ = some n :=
    kind.evaluate?_spelled o n
  cases check with
  | least flagged n =>
    rw [call] at other ⊢
    split
    next zero =>
      simp only [Bool.and_eq_true, beq_iff_eq] at zero
      simp [WrittenCall.Admits, Admits, zero.2]
    next => simp [WrittenCall.Admits, Admits, bound]
  | greatest flagged n =>
    rw [call] at other ⊢
    split
    next safe =>
      rw [if_pos safe] at other
      exact absurd rfl other
    next =>
      split
      next zero =>
        simp only [Bool.and_eq_true, beq_iff_eq] at zero
        simp [WrittenCall.Admits, Admits, zero.2]
      next => simp [WrittenCall.Admits, Admits, bound]
  | multipleOf n => simp [call, WrittenCall.Admits, Admits, bound]
  | int => simp [call, WrittenCall.Admits, Admits]

theorem argument_call (plain : o.scientificNotation = false) (check : InclusiveCheck) :
    ∀ text ∈ (check.call kind o seen).argument,
      ∃ n ∈ check.bound?, text = toString n ++ kind.suffix := by
  cases check with
  | least flagged n =>
    rw [call]
    split <;> simp [bound?, kind.spelled_plain plain]
  | greatest flagged n =>
    rw [call]
    split
    · simp
    · split <;> simp [bound?, kind.spelled_plain plain]
  | multipleOf n => simp [call, bound?, kind.spelled_plain plain]
  | int => simp [call]

end InclusiveCheck

variable (given : List InclusiveCheck)

/-- What a call depends on of the checks before its own is only whether the least safe integer is
among them. -/
theorem getElem?_callChain (i : Nat) :
    (callChain kind o seen given)[i]? =
      given[i]?.map (·.call kind o (seen || (given.take i).contains .leastSafe)) := by
  induction given generalizing seen i with
  | nil => rfl
  | cons check rest ih =>
    cases i with
    | zero => simp [callChain]
    | succ i =>
      simp only [callChain, List.getElem?_cons_succ, ih, List.take_succ_cons, List.contains_cons,
        Bool.or_assoc]
      rw [Bool.beq_comm]

theorem forall₂_callChain {R : InclusiveCheck → WrittenCall → Prop}
    (each : ∀ check seen, R check (check.call kind o seen)) :
    List.Forall₂ R given (callChain kind o seen given) := by
  induction given generalizing seen with
  | nil => exact .nil
  | cons check rest ih => exact .cons (each check seen) ih

/-- The safe integers are said in one call by the second of their bounds. The first one is a bound
of its own, so no integer is lost by that. -/
theorem callChain_accepts (x : Int) (least : seen = true → -Numeral.greatestSafe ≤ x) :
    (∀ call ∈ callChain kind o seen given, call.Admits kind.suffix x) ↔
      ∀ check ∈ given, check.Admits x := by
  induction given generalizing seen with
  | nil => simp [callChain]
  | cons check rest ih =>
    have head : (check.call kind o seen).Admits kind.suffix x ↔ check.Admits x := by
      by_cases safe : (check.call kind o seen).method = "safe"
      · obtain ⟨-, -, after, rfl⟩ := check.method_call_eq_safe_iff.mp safe
        rw [WrittenCall.admits_of_safe safe]
        exact ⟨And.right, fun below => ⟨least after, below⟩⟩
      · exact check.call_admits safe x
    have tail (admits : check.Admits x) :
        (∀ call ∈ callChain kind o (seen || check == .leastSafe) rest,
          call.Admits kind.suffix x) ↔ ∀ check ∈ rest, check.Admits x :=
      ih fun either => by
        rcases Bool.or_eq_true _ _ ▸ either with after | here
        · exact least after
        · rw [beq_iff_eq.mp here] at admits
          exact admits
    simp only [callChain, List.forall_mem_cons, head]
    constructor
    · rintro ⟨admits, others⟩
      exact ⟨admits, (tail admits).mp others⟩
    · rintro ⟨admits, others⟩
      exact ⟨admits, (tail admits).mpr others⟩

end Meaning

/-! ## The calls of the rules -/

section Rules

variable {check : Check} {given : InclusiveCheck} {o : Optimizations}

theorem IntegerKind.number_of_integer? {value : Value} {n : Int}
    (held : IntegerKind.number.integer? value = some n) :
    ∃ x, value = .number x ∧ x.integer? = some n ∧ n.natAbs ≤ 2 ^ 53 := by
  cases value <;> try cases held
  case number x =>
    obtain ⟨integer, small⟩ := Option.filter_eq_some_iff.mp held
    exact ⟨x, rfl, integer, of_decide_eq_true small⟩

theorem IntegerKind.bigint_of_integer? {value : Value} {n : Int}
    (held : IntegerKind.bigint.integer? value = some n) : value = .bigint n := by
  cases value <;> cases held
  rfl

theorem numberBound_of_integer? {n : Int}
    (bound : check.resolved.bind IntegerKind.number.integer? = some n) :
    numberBound o check.resolved = IntegerKind.number.spelled o n := by
  obtain ⟨value, resolved, held⟩ := Option.bind_eq_some_iff.mp bound
  obtain ⟨x, rfl, integer, small⟩ := IntegerKind.number_of_integer? held
  rw [resolved]
  exact o.numberText_eq integer small

theorem boundIs_of_integer? {n : Int}
    (bound : check.resolved.bind IntegerKind.number.integer? = some n) (m : Int) :
    boundIs m check = (n == m) := by
  obtain ⟨value, resolved, held⟩ := Option.bind_eq_some_iff.mp bound
  obtain ⟨x, rfl, integer, -⟩ := IntegerKind.number_of_integer? held
  exact boundIs_eq resolved integer m

theorem resolved_bigint {n : Int}
    (bound : check.resolved.bind IntegerKind.bigint.integer? = some n) :
    check.resolved = some (.bigint n) := by
  obtain ⟨value, resolved, held⟩ := Option.bind_eq_some_iff.mp bound
  rw [resolved, IntegerKind.bigint_of_integer? held]

theorem lowerCall_written {flagged : Bool}
    (flag : check.inclusive = if flagged then some true else none) (semantic zero : Bool)
    (bound : Option Value → String) :
    (lowerCall semantic zero check).written bound =
      if semantic && flagged && zero then ⟨"nonnegative", none⟩
      else ⟨"min", some (bound check.resolved)⟩ := by
  rw [lowerCall, flag]
  cases flagged <;> cases semantic <;> cases zero <;> rfl

theorem upperCall_written {flagged : Bool}
    (flag : check.inclusive = if flagged then some true else none) (semantic zero : Bool)
    (bound : Option Value → String) :
    (upperCall semantic zero check).written bound =
      if semantic && flagged && zero then ⟨"nonpositive", none⟩
      else ⟨"max", some (bound check.resolved)⟩ := by
  rw [upperCall, flag]
  cases flagged <;> cases semantic <;> cases zero <;> rfl

theorem isLeastSafe_of_holds (held : IntegerKind.number.Holds check given) :
    isLeastSafe check = (given == .leastSafe) := by
  cases held with
  | @least flagged n named bound flag =>
    rw [isLeastSafe, named, flag, boundIs_of_integer? bound, Bool.eq_iff_iff]
    cases flagged <;> simp [InclusiveCheck.leastSafe]
  | greatest named => simp [isLeastSafe, named, InclusiveCheck.leastSafe]
  | multipleOf named => simp [isLeastSafe, named, InclusiveCheck.leastSafe]
  | int numbers named => simp [isLeastSafe, named, InclusiveCheck.leastSafe]

theorem isGreatestSafe_of_greatest {flagged : Bool} {n : Int} (named : check.kind = "max")
    (bound : check.resolved.bind IntegerKind.number.integer? = some n)
    (flag : check.inclusive = if flagged then some true else none) :
    isGreatestSafe check = (InclusiveCheck.greatest flagged n == .greatestSafe) := by
  rw [isGreatestSafe, named, flag, boundIs_of_integer? bound, Bool.eq_iff_iff]
  cases flagged <;> simp [InclusiveCheck.greatestSafe]

theorem numberCall?_of_holds (held : IntegerKind.number.Holds check given) (seen : Bool) :
    (numberCall? o.semanticMethods seen check).map (·.written (numberBound o)) =
      some (given.call .number o seen) := by
  cases held with
  | least named bound flag =>
    have call : numberCall? o.semanticMethods seen check =
        some (lowerCall o.semanticMethods (boundIs 0 check) check) := by
      simp [numberCall?, named]
    rw [call, Option.map_some, lowerCall_written flag, boundIs_of_integer? bound,
      numberBound_of_integer? bound]
    rfl
  | greatest named bound flag =>
    have call : numberCall? o.semanticMethods seen check =
        some (if o.semanticMethods && seen && isGreatestSafe check then .flag "safe"
          else upperCall o.semanticMethods (boundIs 0 check) check) := by
      simp [numberCall?, named]
    rw [call, Option.map_some, isGreatestSafe_of_greatest named bound flag,
      apply_ite (RangeCall.written (numberBound o)), upperCall_written flag,
      boundIs_of_integer? bound, numberBound_of_integer? bound]
    rfl
  | multipleOf named bound =>
    have call : numberCall? o.semanticMethods seen check = some (.multipleOf check.resolved) := by
      simp [numberCall?, named]
    rw [call, Option.map_some, RangeCall.written, numberBound_of_integer? bound]
    rfl
  | int numbers named =>
    have call : numberCall? o.semanticMethods seen check = some (.flag "int") := by
      simp [numberCall?, named, bareNumberChecks]
    rw [call]
    rfl

theorem bigintCall?_of_holds (held : IntegerKind.bigint.Holds check given) (seen : Bool) :
    (bigintCall? o.semanticMethods check).map (·.written (bigintBound o)) =
      some (given.call .bigint o seen) := by
  have bigintBound_eq (n : Int) :
      bigintBound o (some (.bigint n)) = IntegerKind.bigint.spelled o n := o.bigintText_eq n
  cases held with
  | @least flagged n named bound flag =>
    have resolved := resolved_bigint bound
    have call : bigintCall? o.semanticMethods check =
        some (lowerCall o.semanticMethods (n == 0) check) := by
      simp [bigintCall?, named, resolved, Value.bigint?]
    rw [call, Option.map_some, lowerCall_written flag, resolved, bigintBound_eq]
    rfl
  | @greatest flagged n named bound flag =>
    have resolved := resolved_bigint bound
    have call : bigintCall? o.semanticMethods check =
        some (upperCall o.semanticMethods (n == 0) check) := by
      simp [bigintCall?, named, resolved, Value.bigint?]
    rw [call, Option.map_some, upperCall_written flag, resolved, bigintBound_eq]
    rfl
  | multipleOf named bound =>
    have resolved := resolved_bigint bound
    have call : bigintCall? o.semanticMethods check = some (.multipleOf check.resolved) := by
      simp [bigintCall?, named]
    rw [call, Option.map_some, RangeCall.written, resolved, bigintBound_eq]
    rfl
  | int numbers => cases numbers

variable {checks : List Check} {all : List InclusiveCheck}

theorem numberCalls_of_holds (held : List.Forall₂ IntegerKind.number.Holds checks all)
    (seen : Bool) :
    (numberCalls o.semanticMethods seen checks).map (·.written (numberBound o)) =
      callChain .number o seen all := by
  induction held generalizing seen with
  | nil => rfl
  | cons first _ ih =>
    obtain ⟨call, found, written⟩ :=
      Option.map_eq_some_iff.mp (numberCall?_of_holds (o := o) first seen)
    simp only [numberCalls, found, Option.toList_some, List.singleton_append, List.map_cons,
      callChain, written, ih, isLeastSafe_of_holds first]

theorem bigintCalls_of_holds (held : List.Forall₂ IntegerKind.bigint.Holds checks all)
    (seen : Bool) :
    (checks.filterMap (bigintCall? o.semanticMethods)).map (·.written (bigintBound o)) =
      callChain .bigint o seen all := by
  induction held generalizing seen with
  | nil => rfl
  | cons first _ ih =>
    obtain ⟨call, found, written⟩ :=
      Option.map_eq_some_iff.mp (bigintCall?_of_holds (o := o) first seen)
    rw [List.filterMap_cons_some found, List.map_cons, written, callChain, ih]

end Rules

/-! ## All optimizations -/

/-- Calls that say what checks say, one for each. -/
structure SaysInOrder (kind : IntegerKind) (o : Optimizations) (given : List InclusiveCheck)
    (calls : List WrittenCall) : Prop where
  /-- The calls stand in the order of the checks, and each but `safe` says what its check says. -/
  each : List.Forall₂ (fun check call => call.method ∈ check.methods ∧
    (call.method ≠ "safe" → ∀ x, call.Admits kind.suffix x ↔ check.Admits x)) given calls
  accepts_iff (x : Int) :
    (∀ call ∈ calls, call.Admits kind.suffix x) ↔ ∀ check ∈ given, check.Admits x
  /-- The safe integers are said for an upper bound that comes after the lower one. -/
  safe_iff (i : Nat) : (∃ call, calls[i]? = some call ∧ call.method = "safe") ↔
    kind = .number ∧ o.semanticMethods = true ∧ given[i]? = some .greatestSafe ∧
      ∃ j < i, given[j]? = some .leastSafe
  /-- Without symbols every argument is the decimal of its bound. -/
  plain : o.scientificNotation = false → List.Forall₂ (fun check call =>
    ∀ text ∈ call.argument, ∃ n ∈ check.bound?, text = toString n ++ kind.suffix) given calls

theorem contains_take_iff (given : List InclusiveCheck) (check : InclusiveCheck) (i : Nat) :
    (given.take i).contains check = true ↔ ∃ j < i, given[j]? = some check := by
  simp only [List.contains_iff_mem, List.mem_iff_getElem?, List.getElem?_take,
    Option.ite_none_right_eq_some]

theorem saysInOrder_callChain (kind : IntegerKind) (o : Optimizations)
    (given : List InclusiveCheck) : SaysInOrder kind o given (callChain kind o false given) where
  each := forall₂_callChain given fun check _ => ⟨check.method_call_mem, check.call_admits⟩
  accepts_iff x := callChain_accepts given x nofun
  safe_iff i := by
    simp only [getElem?_callChain, Option.map_eq_some_iff, ← contains_take_iff, Bool.false_or]
    constructor
    · rintro ⟨call, ⟨check, here, rfl⟩, safe⟩
      obtain ⟨number, semantic, seen, rfl⟩ := check.method_call_eq_safe_iff.mp safe
      exact ⟨number, semantic, here, seen⟩
    · rintro ⟨number, semantic, here, seen⟩
      exact ⟨_, ⟨_, here, rfl⟩,
        (InclusiveCheck.method_call_eq_safe_iff _).mpr ⟨number, semantic, seen, rfl⟩⟩
  plain off := forall₂_callChain given fun check _ => check.argument_call off

/-- **Optimizations keep what inclusive bounds say.** A number or a big integer whose checks state
integers that are allowed themselves is written with one call for each check, in order. Together the
calls admit the integers that the checks admit, whichever optimizations are on. -/
theorem Renderer.render_inclusive_bounds {version : Version} {kind : IntegerKind} {node : Value}
    (known : version.dialect.kind? node = some kind.kind) {given : List InclusiveCheck}
    (stated : (definitionIn version.dialect node).fields.ChecksState kind.States given)
    (options : Options) :
    ∃ calls,
      (ofVersion version).render options node =
        .ok (constructor kind.kind.tag (definitionIn version.dialect node).fields
          ++ String.join (calls.map WrittenCall.text)) ∧
      SaysInOrder kind options.optimizations given calls := by
  refine ⟨callChain kind options.optimizations false given, ?_, saysInOrder_callChain _ _ _⟩
  have held := IntegerKind.checksState_iff.mp stated
  obtain ⟨recognized, tagged⟩ := Dialect.of_kind? known
  rw [render_eq_textAt, textAt_of_kind recognized tagged]
  have texts (bound : Option Value → String) (calls : List RangeCall) :
      (calls.map (·.written bound)).map WrittenCall.text = calls.map (·.text bound) := by
    simp only [List.map_map, Function.comp_def, RangeCall.text_written]
  cases kind with
  | number =>
    rw [← numberCalls_of_holds held false, texts]
    exact congrArg Except.ok String.append_empty
  | bigint =>
    rw [← bigintCalls_of_holds held false, texts]
    exact congrArg Except.ok String.append_empty

/-! ## Both layouts -/

namespace IntegerKind

/-- An integer as schemas of a kind hold it. -/
def value : IntegerKind → Int → Value
  | .number, n => .number (.ofInt n)
  | .bigint, n => .bigint n

/-- The checks that schemas of a kind can have. -/
def Allows (kind : IntegerKind) : InclusiveCheck → Prop
  | .least _ n | .greatest _ n | .multipleOf n => kind = .number → n.natAbs ≤ 2 ^ 53
  | .int => kind = .number

theorem integer?_value {kind : IntegerKind} {n : Int}
    (small : kind = .number → n.natAbs ≤ 2 ^ 53) : kind.integer? (kind.value n) = some n := by
  cases kind with
  | number =>
    rw [value, integer?, Double.integer?_ofInt_of_le (small rfl)]
    exact Option.filter_some_pos (decide_eq_true (small rfl))
  | bigint => rfl

end IntegerKind

/-- A check as an entry of a layout. Entries that name their check say in the name whether the bound
is allowed, if they say it at all. -/
def InclusiveCheck.entry (value : Int → Value) (layout : Version) (check : InclusiveCheck) :
    Value :=
  match check, layout with
  | .least flagged n, .v3 =>
    flatEntry "min" (("value", value n) :: if flagged then [("inclusive", .bool true)] else [])
  | .least flagged n, .v4 =>
    namedEntry (if flagged then "greater_than_or_equal" else "min") [("value", value n)]
  | .greatest flagged n, .v3 =>
    flatEntry "max" (("value", value n) :: if flagged then [("inclusive", .bool true)] else [])
  | .greatest flagged n, .v4 =>
    namedEntry (if flagged then "less_than_or_equal" else "max") [("value", value n)]
  | .multipleOf n, .v3 => flatEntry "multipleOf" [("value", value n)]
  | .multipleOf n, .v4 => namedEntry "multiple_of" [("value", value n)]
  | .int, .v3 => flatEntry "int" []
  | .int, .v4 => namedEntry "number_format" [("format", .string "safeint")]

theorem IntegerKind.states_entry {kind : IntegerKind} {check : InclusiveCheck}
    (allowed : kind.Allows check) (layout : Version) :
    kind.States (check.entry kind.value layout) check := by
  rw [states_iff]
  -- The value of an entry is looked at for being there at all, which its kind decides.
  cases check with
  | least flagged n =>
    have bound := integer?_value allowed
    cases layout <;> cases flagged <;> cases kind <;> exact ⟨_, rfl, .least rfl bound rfl⟩
  | greatest flagged n =>
    have bound := integer?_value allowed
    cases layout <;> cases flagged <;> cases kind <;> exact ⟨_, rfl, .greatest rfl bound rfl⟩
  | multipleOf n =>
    have bound := integer?_value allowed
    cases layout <;> cases kind <;> exact ⟨_, rfl, .multipleOf rfl bound⟩
  | int => cases layout <;> exact ⟨_, rfl, .int allowed rfl⟩

theorem IntegerKind.States.isCheck {kind : IntegerKind} {entry : Value} {check : InclusiveCheck}
    (states : kind.States entry check) : entry.IsCheck := by
  obtain ⟨c, read, -⟩ := states_iff.mp states
  exact Check.isSome_ofEntry?_iff.mp (Option.isSome_of_eq_some read)

/-- A schema of a kind with some checks. -/
def IntegerKind.node (kind : IntegerKind) (layout : Version) (given : List InclusiveCheck) :
    Value :=
  SchemaSource.node layout (match kind with | .number => "Number" | .bigint => "BigInt")
    kind.kind.tag [("checks", .array (given.map (·.entry kind.value layout)))]

theorem IntegerKind.kind?_node (kind : IntegerKind) (layout : Version)
    (given : List InclusiveCheck) :
    layout.dialect.kind? (kind.node layout given) = some kind.kind := by
  have knows : layout.dialect.Knows kind.kind (kind.node layout given) := by
    cases layout with
    | v3 =>
      cases kind with
      | number => exact knows_classNode .v3 (by decide) (by decide) _
      | bigint => exact knows_classNode .v3 (by decide) (by decide) _
    | v4 => exact knows_kindNode kind.kind _
  rw [Dialect.kind?, if_pos knows.recognized, knows.tag, Option.bind_some, Kind.ofTag?_tag]

/-- Every list of checks is stated in either layout. -/
theorem IntegerKind.states_node {kind : IntegerKind} {given : List InclusiveCheck}
    (allowed : ∀ check ∈ given, kind.Allows check) (layout : Version) :
    (Renderer.definitionIn layout.dialect (kind.node layout given)).fields.ChecksState kind.States
      given := by
  have reads : layout.dialect.Reads layout := by
    cases layout with
    | v3 => exact .classes .v3
    | v4 => exact .kinds
  have field : (Renderer.definitionIn layout.dialect (kind.node layout given)).fields.get?
      "checks" = some (.array (given.map (·.entry kind.value layout))) :=
    reads.field rfl rfl
  have each : ∀ check ∈ given, kind.States (check.entry kind.value layout) check :=
    fun check member => states_entry (allowed check member) layout
  have all : ∀ entry ∈ given.map (·.entry kind.value layout), entry.IsCheck := by
    rw [List.forall_mem_map]
    exact fun check member => (each check member).isCheck
  have kept : (given.map (·.entry kind.value layout)).filter (fun entry => entry.IsCheck) =
      given.map (·.entry kind.value layout) := by
    simpa [List.filter_eq_self] using all
  rw [Fields.ChecksState, Fields.checkEntries, field]
  change List.Forall₂ kind.States
    ((given.map (·.entry kind.value layout)).filter fun entry => entry.IsCheck) given
  rw [kept, List.forall₂_map_left_iff, List.forall₂_same]
  exact each

/-- A number between the safe integers in either layout, with a bound between that says nothing of
itself. In one of them the bounds stand among entries that state no check. -/
theorem Renderer.render_inclusive_bounds_safe :
    let given : List InclusiveCheck := [.leastSafe, .greatest false 127, .greatestSafe]
    let value (n : Int) := ("value", Value.number (.ofInt n))
    let flat := IntegerKind.number.node .v3 given
    let named := SchemaSource.node .v4 "Number" "number" [("checks", .array [.null,
      namedEntry "greater_than_or_equal" [value (-Numeral.greatestSafe)], .object [],
      namedEntry "max" [value 127],
      namedEntry "less_than_or_equal" [value Numeral.greatestSafe]])]
    let Stated (version : Version) (node : Value) : Prop :=
      version.dialect.kind? node = some .number ∧
        (definitionIn version.dialect node).fields.ChecksState IntegerKind.number.States given
    let Safe (version : Version) (node : Value) : Prop :=
      ∃ calls : List WrittenCall, (ofVersion version).render {} node =
          .ok ("z.number()" ++ String.join (calls.map WrittenCall.text)) ∧
        ∃ call, calls[2]? = some call ∧ call.method = "safe"
    (Stated .v3 flat ∧ Stated .v4 named) ∧ Safe .v3 flat ∧ Safe .v4 named := by
  intro given value flat named Stated Safe
  have allowed : ∀ check ∈ given, IntegerKind.number.Allows check := by
    simp [given, IntegerKind.Allows, InclusiveCheck.leastSafe, InclusiveCheck.greatestSafe,
      Numeral.greatestSafe]
  have first : Stated .v3 flat :=
    ⟨IntegerKind.number.kind?_node .v3 given, IntegerKind.states_node allowed .v3⟩
  have second : Stated .v4 named := by
    have bound (n : Int) (small : n.natAbs ≤ 2 ^ 53) :
        IntegerKind.number.integer? (.number (.ofInt n)) = some n :=
      IntegerKind.integer?_value fun _ => small
    refine ⟨rfl, IntegerKind.checksState_iff.mpr ?_⟩
    exact .cons (.least rfl (bound (-Numeral.greatestSafe) (by decide)) rfl)
      (.cons (.greatest rfl (bound 127 (by decide)) rfl)
        (.cons (.greatest rfl (bound Numeral.greatestSafe (by decide)) rfl) .nil))
  have last {calls : List WrittenCall} (faithful : SaysInOrder .number {} given calls) :
      ∃ call, calls[2]? = some call ∧ call.method = "safe" :=
    (faithful.safe_iff 2).mpr ⟨rfl, rfl, rfl, 0, by decide, rfl⟩
  refine ⟨⟨first, second⟩, ?_, ?_⟩
  · obtain ⟨calls, text, faithful⟩ := render_inclusive_bounds first.1 first.2 {}
    exact ⟨calls, text, last faithful⟩
  · obtain ⟨calls, text, faithful⟩ := render_inclusive_bounds second.1 second.2 {}
    exact ⟨calls, text, last faithful⟩

end SchemaSource
