import SchemaSource.Double
/-!
The fewest decimal digits that read back as a given double. The numbers that read back form an
interval around it; the search tries ever finer decimal grids and takes the first that has a point
there. The two grid points beside the number are enough: if any point of a grid reads back, so
does one of these.
-/
namespace SchemaSource.Double

/-- The number `digits * 10 ^ exponent`. -/
structure Decimal where
  digits : Nat
  exponent : Int
  deriving DecidableEq, Repr

/-- Which of two equally near decimals is written. -/
inductive Tie where
  | up
  | toEven
  deriving DecidableEq, Repr

namespace Decimal

/-- Final zeros move into the exponent. -/
def trim (d : Decimal) : Decimal :=
  if h : d.digits ≠ 0 ∧ d.digits % 10 = 0 then
    trim ⟨d.digits / 10, d.exponent + 1⟩
  else d
termination_by d.digits
decreasing_by omega

end Decimal

/-- A positive finite number and the interval of reals nearest to it, over one denominator. -/
structure Neighbourhood where
  low : Nat
  value : Nat
  high : Nat
  denominator : Nat
  /-- The ends read back as the number itself. -/
  closed : Bool
  deriving DecidableEq, Repr

/-- Half the gap to each neighbour. Below a power of two the gap is half as wide; at the least
exponent all gaps are equal. -/
def neighbourhood (mantissa : Nat) (exponent : Int) : Neighbourhood :=
  let unit := 2 ^ exponent.toNat
  let below := if mantissa = 2 ^ 52 ∧ exponent ≠ -1074 then 1 else 2
  { low := (4 * mantissa - below) * unit
    value := 4 * mantissa * unit
    high := (4 * mantissa + 2) * unit
    denominator := 4 * 2 ^ (-exponent).toNat
    closed := mantissa % 2 = 0 }

namespace Neighbourhood

/-- The power of ten that the number reaches. -/
def decade (n : Neighbourhood) : Int :=
  let guess : Int := (digitCount n.value : Int) - digitCount n.denominator
  if n.denominator * 10 ^ guess.toNat ≤ n.value * 10 ^ (-guess).toNat then guess else guess - 1

def contains (n : Neighbourhood) (d : Decimal) : Bool :=
  let point := d.digits * 10 ^ d.exponent.toNat * n.denominator
  let low := n.low * 10 ^ (-d.exponent).toNat
  let high := n.high * 10 ^ (-d.exponent).toNat
  if n.closed then low ≤ point && point ≤ high else low < point && point < high

/-- The nearest of the two grid points beside the number, if one of them lies in the interval. -/
def onGrid? (n : Neighbourhood) (tie : Tie) (exponent : Int) : Option Decimal :=
  let scale := n.denominator * 10 ^ exponent.toNat
  let value := n.value * 10 ^ (-exponent).toNat
  let below : Decimal := ⟨value / scale, exponent⟩
  let above : Decimal := ⟨value / scale + 1, exponent⟩
  let twice := 2 * (value % scale)
  let upward :=
    scale < twice || (twice == scale && (tie == .up || below.digits % 2 == 1))
  let (nearer, farther) := if upward then (above, below) else (below, above)
  if n.contains nearer then some nearer
  else if n.contains farther then some farther
  else none

/-- Seventeen digits always read back, so the search ends by then. -/
def shortest (n : Neighbourhood) (tie : Tie) : Decimal :=
  let finest := n.decade - 16
  match (List.range 17).findSome? fun k => n.onGrid? tie (n.decade - (k : Nat)) with
  | some d => d.trim
  | none =>
    (⟨n.value * 10 ^ (-finest).toNat / (n.denominator * 10 ^ finest.toNat), finest⟩ : Decimal).trim

end Neighbourhood

/-- The shortest decimal of a finite number without its sign, and of those the nearest one. -/
def shortest (mantissa : Nat) (exponent : Int) (tie : Tie) : Decimal :=
  if mantissa = 0 then ⟨0, 0⟩ else (neighbourhood mantissa exponent).shortest tie

end SchemaSource.Double
