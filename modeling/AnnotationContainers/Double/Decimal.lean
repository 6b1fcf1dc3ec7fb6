import AnnotationContainers.Double.Basic

/-! # Decimal text of doubles

A decimal is an integer times a power of ten. `Double.shortest` is a decimal with the fewest
digits among those to which the number is the nearest double, and of these the one nearest to the
number. The neighbours of a number on each decimal grid are tested by rounding them.
-/

namespace AnnotationContainers

/-- The number `digits` times ten to the power of `exponent`. -/
structure Decimal where
  digits : Nat
  exponent : Int
deriving DecidableEq

namespace Decimal

def leading (d : Decimal) : Int := (toString d.digits).length - 1 + d.exponent

def num (d : Decimal) : Nat := d.digits * Nat.pow 10 d.exponent.toNat

def den (d : Decimal) : Nat := Nat.pow 10 (-d.exponent).toNat

/-- Move trailing zeros of the digits into the exponent; `fuel` bounds their number. -/
def trim : Nat → Decimal → Decimal
  | 0, d => d
  | fuel + 1, d =>
    if d.digits ≠ 0 ∧ d.digits % 10 = 0 then trim fuel ⟨d.digits / 10, d.exponent + 1⟩ else d

end Decimal

namespace Double

/-- The exponent of the leading decimal digit of a magnitude other than zero. Scaled by ten to the
power of 400, every such value has digits before the point. -/
def leadingExponent (magnitude : Nat) : Int :=
  (toString (units magnitude * Nat.pow 10 400 >>> unitExponent)).length - 401

/-- The two neighbours of a magnitude among the decimals with this exponent, the nearer first; of
two equally near ones the even one is first. -/
def neighbours (magnitude : Nat) (exponent : Int) : List Decimal :=
  let num := units magnitude * Nat.pow 10 (-exponent).toNat
  let den := Nat.pow 10 exponent.toNat <<< unitExponent
  let below := num / den
  if roundHalfEven num den = below then [⟨below, exponent⟩, ⟨below + 1, exponent⟩]
  else [⟨below + 1, exponent⟩, ⟨below, exponent⟩]

def roundsTo (magnitude : Nat) (d : Decimal) : Bool :=
  nearestMagnitude d.num d.den = magnitude

/-- The decimal with the fewest digits that rounds to a finite magnitude other than zero.
Seventeen digits always suffice. -/
def shortest (magnitude : Nat) : Decimal :=
  let leading := leadingExponent magnitude
  let found := (List.range 17).findSome? fun (n : Nat) =>
    (neighbours magnitude (leading - (n : Int))).find? (roundsTo magnitude)
  (found.getD ⟨units magnitude, 0⟩).trim 20

end Double

/-- How a decimal is laid out: positionally while the leading exponent lies between the two
bounds, in scientific notation outside them. -/
structure DecimalLayout where
  lowest : Int
  highest : Int

namespace DecimalLayout

private def zeros (n : Int) : String := String.ofList (List.replicate n.toNat '0')

/-- At least one digit stands after the point. -/
def positional (d : Decimal) : String :=
  let digits := toString d.digits
  if 0 ≤ d.exponent then digits ++ zeros d.exponent ++ ".0"
  else if 0 ≤ d.leading then
    let whole := d.leading.toNat + 1
    String.ofList (digits.toList.take whole) ++ "." ++ String.ofList (digits.toList.drop whole)
  else "0." ++ zeros (-d.leading - 1) ++ digits

/-- One digit stands before the point, and the exponent has a sign. -/
def scientific (d : Decimal) : String :=
  let digits := (toString d.digits).toList
  let fraction := if digits.length ≤ 1 then "" else "." ++ String.ofList (digits.drop 1)
  let sign := if d.leading < 0 then "-" else "+"
  String.ofList (digits.take 1) ++ fraction ++ "e" ++ sign ++ toString d.leading.natAbs

def text (layout : DecimalLayout) (d : Decimal) : String :=
  if layout.lowest ≤ d.leading ∧ d.leading ≤ layout.highest then positional d else scientific d

def doubleText (layout : DecimalLayout) (x : Double) : String :=
  let sign := if x.negative then "-" else ""
  sign ++ layout.text (if x.magnitude = 0 then ⟨0, 0⟩ else Double.shortest x.magnitude)

end DecimalLayout

end AnnotationContainers
