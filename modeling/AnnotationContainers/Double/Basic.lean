/-! # Binary64 numbers in exact arithmetic

A double is a sign and the 63 bits below it, read as a natural number. Larger magnitudes stand for
larger absolute values, so rounding is a function into the naturals: the value in units of the least
positive double is shifted until 53 bits are left, and the shift and the bits together are the
magnitude.
-/

namespace AnnotationContainers

/-- A binary64 number by its bits: the sign and the 63 bits below it. -/
structure Double where
  negative : Bool
  magnitude : Nat
  magnitude_lt : magnitude < 0x8000000000000000
deriving DecidableEq

namespace Double

def signWeight : Nat := 0x8000000000000000

/-- Magnitudes of neighbouring exponents differ by this much: the 52 bits of the fraction lie
below it. -/
def exponentStep : Nat := 0x10000000000000

/-- The magnitude of the infinities, the least one that is not finite. -/
def infinityMagnitude : Nat := 2047 * exponentStep

def isFinite (x : Double) : Bool := x.magnitude < infinityMagnitude

def isNaN (x : Double) : Bool := infinityMagnitude < x.magnitude

/-- The number with this sign and magnitude, or an infinity where the magnitude is too large. -/
def ofMagnitude (negative : Bool) (magnitude : Nat) : Double where
  negative
  magnitude := min magnitude infinityMagnitude
  magnitude_lt := Nat.lt_of_le_of_lt (Nat.min_le_right _ _) (by decide)

def infinity (negative : Bool) : Double := ofMagnitude negative infinityMagnitude

def toBits (x : Double) : UInt64 :=
  UInt64.ofNat ((if x.negative then signWeight else 0) + x.magnitude)

def ofBits (bits : UInt64) : Double where
  negative := signWeight ≤ bits.toNat
  magnitude := bits.toNat % signWeight
  magnitude_lt := Nat.mod_lt _ (by decide)

/-- The least positive double is two to the power of minus `unitExponent`. -/
def unitExponent : Nat := 1074

/-- The absolute value of a finite magnitude, as a multiple of the least positive double. -/
def units (magnitude : Nat) : Nat :=
  let shift := magnitude / exponentStep - 1
  (magnitude - shift * exponentStep) <<< shift

/-- The integer nearest to `num / den`, the even one of two equally near. -/
def roundHalfEven (num den : Nat) : Nat :=
  let below := num / den
  let rest := num % den
  if 2 * rest < den ∨ 2 * rest = den ∧ below % 2 = 0 then below else below + 1

/-- The magnitude nearest to `num / den`, without a bound above. -/
def nearestMagnitude (num den : Nat) : Nat :=
  let scaled := num <<< unitExponent
  let shift := Nat.log2 (scaled / den) - 52
  shift * exponentStep + roundHalfEven scaled (den <<< shift)

def ofRatio (negative : Bool) (num den : Nat) : Double :=
  ofMagnitude negative (nearestMagnitude num den)

/-- The double nearest to an integer; zero is positive. -/
def ofInt (n : Int) : Double := ofRatio (n < 0) n.natAbs 1

theorem roundHalfEven_le (num den : Nat) : roundHalfEven num den ≤ num / den + 1 := by
  simp only [roundHalfEven]
  split <;> omega

theorem isFinite_ofMagnitude (negative : Bool) {magnitude : Nat}
    (h : magnitude < infinityMagnitude) : (ofMagnitude negative magnitude).isFinite :=
  decide_eq_true (Nat.lt_of_le_of_lt (Nat.min_le_left _ _) h)

private theorem shifted_lt (m : Nat) : m / 1 <<< (m.log2 - 52) < 2 * exponentStep := by
  have top : 2 * exponentStep = 2 ^ 53 := by decide
  rw [top, Nat.one_shiftLeft, Nat.div_lt_iff_lt_mul (Nat.two_pow_pos _), ← Nat.pow_add]
  exact Nat.lt_of_lt_of_le Nat.lt_log2_self (Nat.pow_le_pow_right (by decide) (by omega))

/-- Rounding keeps 53 bits, so the shift bounds the magnitude. -/
theorem nearestMagnitude_le {num bits : Nat} (h : num < 1 <<< bits) :
    nearestMagnitude num 1 ≤ (bits + unitExponent) * exponentStep + 2 * exponentStep := by
  simp only [nearestMagnitude, Nat.div_one]
  have scaled : num <<< unitExponent < 2 ^ (bits + unitExponent) := by
    rw [Nat.one_shiftLeft] at h
    rw [Nat.shiftLeft_eq, Nat.pow_add]
    exact Nat.mul_lt_mul_of_pos_right h (Nat.two_pow_pos _)
  generalize num <<< unitExponent = m at scaled ⊢
  have shift : m.log2 - 52 ≤ bits + unitExponent := by
    by_cases zero : m = 0
    · simp [zero]
    · have := (Nat.log2_lt zero).2 scaled
      omega
  exact Nat.add_le_add (Nat.mul_le_mul_right _ shift)
    (Nat.le_trans (roundHalfEven_le ..) (shifted_lt m))

theorem isFinite_ofInt {n : Int} (low : -0x8000000000000000 ≤ n) (high : n < 0x10000000000000000) :
    (ofInt n).isFinite := by
  have small : n.natAbs < 1 <<< 64 := by
    simp only [Nat.reduceShiftLeft]
    omega
  have bound := nearestMagnitude_le small
  have below : nearestMagnitude n.natAbs 1 < infinityMagnitude :=
    Nat.lt_of_le_of_lt bound (by decide)
  rw [ofInt, ofRatio]
  exact isFinite_ofMagnitude _ below

end Double

end AnnotationContainers
