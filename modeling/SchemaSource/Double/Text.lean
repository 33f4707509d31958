import SchemaSource.Double.Shortest
/-!
Decimal text of doubles. The digits are the shortest that read back; a record states where
positional spelling ends and how ties and integers are written.
-/
namespace SchemaSource.Double

/-- How the shortest digits of a number are laid out. -/
structure Spelling where
  /-- The least decimal exponent written positionally. -/
  least : Int
  /-- The greatest decimal exponent written positionally. -/
  greatest : Int
  /-- Integers written positionally end in `.0`. -/
  markIntegers : Bool
  tie : Tie
  deriving DecidableEq, Repr

/-- Source text: positional from a millionth up to the sextillions, integers without a fraction. -/
def Spelling.source : Spelling := ⟨-6, 20, false, .up⟩

/-- JSON text of numbers that are no integers below `2 ^ 53`. -/
def Spelling.json : Spelling := ⟨-5, 15, true, .toEven⟩

def digitText (n : Nat) : String := String.ofList (Nat.toDigits 10 n)

def zeros (n : Nat) : String := String.ofList (List.replicate n '0')

/-- An exponent carries its sign in either direction. -/
def exponentText (exponent : Int) : String :=
  if exponent < 0 then "e-" ++ digitText exponent.natAbs else "e+" ++ digitText exponent.natAbs

/-- The digits with a point after the first. -/
def scientific (d : Decimal) : String :=
  let digits := Nat.toDigits 10 d.digits
  let exponent := d.exponent + digits.length - 1
  let fraction := String.ofList digits.tail
  String.ofList (digits.take 1) ++ (if fraction.isEmpty then "" else "." ++ fraction)
    ++ exponentText exponent

/-- The digits in their places, filled up with zeros. -/
def positional (markIntegers : Bool) (d : Decimal) : String :=
  let digits := Nat.toDigits 10 d.digits
  if d.exponent ≥ 0 then
    String.ofList digits ++ zeros d.exponent.toNat ++ (if markIntegers then ".0" else "")
  else
    let places := (-d.exponent).toNat
    if places < digits.length then
      let whole := digits.length - places
      String.ofList (digits.take whole) ++ "." ++ String.ofList (digits.drop whole)
    else
      "0." ++ zeros (places - digits.length) ++ String.ofList digits

def Spelling.write (form : Spelling) (d : Decimal) : String :=
  let exponent := d.exponent + digitCount d.digits - 1
  if form.least ≤ exponent ∧ exponent ≤ form.greatest then positional form.markIntegers d
  else scientific d

/-- The text of a number as source code spells it. Zero has no sign. -/
def text : Double → String
  | .nan => "NaN"
  | .infinite negative => if negative then "-Infinity" else "Infinity"
  | .finite negative mantissa exponent _ =>
    if mantissa = 0 then "0"
    else
      (if negative then "-" else "")
        ++ Spelling.source.write (shortest mantissa exponent Spelling.source.tie)

instance : ToString Double := ⟨text⟩

end SchemaSource.Double
