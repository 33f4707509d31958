/-!
Double precision numbers as exact values. A finite one is `mantissa * 2 ^ exponent` in the single
form the format allows, so no operation rounds except where a value is first read.
-/
namespace SchemaSource

/-- Powers are those of the core library also where a module sees other ones. -/
@[default_instance 11000]
scoped instance (priority := high) corePower {α : Type} [NatPow α] : Pow α Nat := instPowNat

/-- The mantissa is as long as the format allows; only the smallest exponent has shorter ones. -/
def Double.Canonical (mantissa : Nat) (exponent : Int) : Prop :=
  mantissa < 2 ^ 53 ∧ -1074 ≤ exponent ∧ exponent ≤ 971 ∧
    (2 ^ 52 ≤ mantissa ∨ exponent = -1074)

instance (mantissa : Nat) (exponent : Int) : Decidable (Double.Canonical mantissa exponent) := by
  unfold Double.Canonical; infer_instance

/-- A double precision number. Zero keeps its sign, and there is one not-a-number. -/
inductive Double where
  | nan
  | infinite (negative : Bool)
  | finite (negative : Bool) (mantissa : Nat) (exponent : Int)
      (canonical : Double.Canonical mantissa exponent)
  deriving DecidableEq

namespace Double

def zero (negative : Bool) : Double := .finite negative 0 (-1074) (by decide)

instance : Inhabited Double := ⟨zero false⟩

def isNaN : Double → Bool
  | .nan => true
  | _ => false

def isFinite : Double → Bool
  | .finite .. => true
  | _ => false

def isZero : Double → Bool
  | .finite _ mantissa _ _ => mantissa == 0
  | _ => false

def isNegativeZero : Double → Bool
  | .finite true mantissa _ _ => mantissa == 0
  | _ => false

/-- Numeric equality: the two zeros agree and not-a-number differs from itself. -/
def equal (x y : Double) : Bool :=
  !x.isNaN && ((x.isZero && y.isZero) || x == y)

/-- A finite number times `2 ^ 1074`, which is an integer. -/
def scaled : Double → Int
  | .finite negative mantissa exponent _ =>
    let magnitude : Int := mantissa * 2 ^ (exponent + 1074).toNat
    if negative then -magnitude else magnitude
  | _ => 0

/-- The integer part, rounded toward zero; there is none without a finite value. -/
def truncate? : Double → Option Int
  | .finite negative mantissa exponent _ =>
    let magnitude : Int := (mantissa * 2 ^ exponent.toNat / 2 ^ (-exponent).toNat : Nat)
    some (if negative then -magnitude else magnitude)
  | _ => none

/-- The value of a number without a fraction. -/
def integer? : Double → Option Int
  | .finite negative mantissa exponent _ =>
    if mantissa % 2 ^ (-exponent).toNat = 0 then
      let magnitude : Int := (mantissa * 2 ^ exponent.toNat / 2 ^ (-exponent).toNat : Nat)
      some (if negative then -magnitude else magnitude)
    else none
  | _ => none

/-- The quotient rounded to the nearest integer, a half to the even one. -/
def roundDiv (numerator denominator : Nat) : Nat :=
  let quotient := numerator / denominator
  let twice := 2 * (numerator % denominator)
  if twice < denominator then quotient
  else if denominator < twice then quotient + 1
  else if quotient % 2 = 0 then quotient
  else quotient + 1

/-- The number with these parts. A rounded mantissa fails to fit only by being too large, and a
number too large for the format is infinite. -/
def ofParts (negative : Bool) (mantissa : Nat) (exponent : Int) : Double :=
  if h : Canonical mantissa exponent then .finite negative mantissa exponent h
  else .infinite negative

/-- The exponent at which the quotient has a 53 bit integer part, or the least exponent. -/
def unitExponent (numerator denominator : Nat) : Int :=
  let bits : Int := (numerator.log2 : Int) - denominator.log2
  let exponent :=
    if numerator * 2 ^ (-bits).toNat < denominator * 2 ^ bits.toNat then bits - 53 else bits - 52
  max exponent (-1074)

/-- The double nearest to a quotient, a half going to the even mantissa. -/
def ofRatio (negative : Bool) (numerator denominator : Nat) : Double :=
  if numerator = 0 then zero negative
  else
    let exponent := unitExponent numerator denominator
    let mantissa :=
      roundDiv (numerator * 2 ^ (-exponent).toNat) (denominator * 2 ^ exponent.toNat)
    if mantissa = 2 ^ 53 then ofParts negative (2 ^ 52) (exponent + 1)
    else ofParts negative mantissa exponent

def ofInt (value : Int) : Double :=
  ofRatio (value < 0) value.natAbs 1

def ofNat (value : Nat) : Double :=
  ofRatio false value 1

def digitCount (n : Nat) : Nat := (Nat.toDigits 10 n).length

/-- The double nearest to `digits * 10 ^ exponent`. Numbers beyond `10 ^ 400` are infinite and those
below `10 ^ -400` vanish, whatever their digits. -/
def ofDecimal (negative : Bool) (digits : Nat) (exponent : Int) : Double :=
  let magnitude := exponent + digitCount digits
  if digits = 0 then zero negative
  else if magnitude > 400 then .infinite negative
  else if magnitude < -400 then zero negative
  else ofRatio negative (digits * 10 ^ exponent.toNat) (10 ^ (-exponent).toNat)

end Double
end SchemaSource
