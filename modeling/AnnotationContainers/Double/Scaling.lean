import AnnotationContainers.Double.Decimal

/-! # Decimals read by scaling

`Double.ofDecimal` rounds the digits of a decimal to a double and scales it by powers of ten that
are doubles themselves. Each step is rounded, so the result can be a neighbour of the double that is
nearest to the decimal. It is the nearest one if the digits and the power of ten are exact.
-/

namespace AnnotationContainers

namespace Double

/-- The product of finite doubles, rounded once. -/
def mul (x y : Double) : Double :=
  ofRatio (x.negative != y.negative) (units x.magnitude * units y.magnitude)
    (1 <<< (2 * unitExponent))

/-- The quotient of a finite double by one other than zero, rounded once. -/
def div (x y : Double) : Double :=
  ofRatio (x.negative != y.negative) (units x.magnitude) (units y.magnitude)

/-- The greatest power of ten that is a finite double. -/
def greatestPower : Nat := 308

def powerOfTen (n : Nat) : Double := ofRatio false (Nat.pow 10 n) 1

/-- Divide by ten to the power of `n`: by the greatest power as often as it fits, and then by what
is left. Zero is reached after a few steps and ends the division. -/
def divPowerOfTen (x : Double) (n : Nat) : Double :=
  if x.magnitude = 0 then x
  else if n ≤ greatestPower then x.div (powerOfTen n)
  else (x.div (powerOfTen greatestPower)).divPowerOfTen (n - greatestPower)
termination_by n
decreasing_by
  simp only [greatestPower] at *
  omega

/-- The double that a decimal is read as. It is an infinity where the power of ten or the product
is too large for a double. -/
def ofDecimal (negative : Bool) (d : Decimal) : Double :=
  let digits := ofRatio negative d.digits 1
  if d.exponent < 0 then digits.divPowerOfTen d.exponent.natAbs
  else if d.exponent ≤ greatestPower then digits.mul (powerOfTen d.exponent.toNat)
  else if d.digits = 0 then digits
  else infinity negative

end Double

end AnnotationContainers
