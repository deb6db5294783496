/-
# `Number.Double` — binary floating-point numbers of 64 bits, held exactly

A double is its sign and the 63 bits below it.  Those bits, read as a natural
number, rise with the absolute value, so the order, the tests for the special
values and the rounding of a quotient are all stated in natural numbers.
-/

namespace ProviderRegistry

/-- A floating-point number: its sign and the 63 bits below the sign. -/
structure Double where
  negative : Bool
  magnitude : Fin 0x8000000000000000
deriving DecidableEq

namespace Double

/-! ## Bits -/

/-- The bit above the magnitude, that of the sign. -/
def signBit : Nat := 0x8000000000000000

/-- The least magnitude whose coefficient has all its 53 bits; one step of the exponent. -/
def normalUnit : Nat := 0x10000000000000

/-- The magnitude at which the finite numbers end: that of the infinities. -/
def infinityMagnitude : Nat := 0x7ff0000000000000

/-- The number of a sign and a magnitude, of which the lowest 63 bits count. -/
def ofMagnitude (negative : Bool) (magnitude : Nat) : Double :=
  ⟨negative, ⟨magnitude % 0x8000000000000000, Nat.mod_lt magnitude (by decide)⟩⟩

/-- The number with the given 64 bits. -/
def ofBits (bits : Nat) : Double := ofMagnitude (bits / signBit % 2 == 1) bits

/-- The 64 bits of a number. -/
def toBits (x : Double) : Nat :=
  (if x.negative then signBit else 0) + x.magnitude.val

/-- Zero of the given sign. -/
def zero (negative : Bool) : Double := ofMagnitude negative 0

/-- Where nothing else is given, a number is zero. -/
instance : Inhabited Double := ⟨zero false⟩

/-- Infinity of the given sign. -/
def infinity (negative : Bool) : Double := ofMagnitude negative infinityMagnitude

/-- The number that stands for no number. -/
def nan : Double := ofMagnitude false 0x7ff8000000000000

/-- Whether a number stands for no number: its magnitude is past that of the infinities. -/
def isNaN (x : Double) : Bool := infinityMagnitude < x.magnitude.val

/-- Whether a number is neither infinite nor NaN. -/
def isFinite (x : Double) : Bool := x.magnitude.val < infinityMagnitude

/-- Whether a number is zero, of either sign. -/
def isZero (x : Double) : Bool := x.magnitude.val == 0

/-- A finite number is its coefficient times a power of two, up to sign. -/
def coefficient (x : Double) : Nat :=
  if x.magnitude.val < normalUnit then x.magnitude.val
  else normalUnit + x.magnitude.val % normalUnit

/-- The power of two that goes with the coefficient. -/
def scale (x : Double) : Int :=
  (max 1 (x.magnitude.val / normalUnit) : Nat) - 1075

/-! ## Order -/

/-- The place of a number in the order; the two zeros share one place. -/
def rank (x : Double) : Int :=
  if x.negative then -(x.magnitude.val : Int) else x.magnitude.val

/-- Numerical equality: nothing equals a NaN, and the two zeros are equal. -/
def same (x y : Double) : Bool :=
  !x.isNaN && !y.isNaN && x.rank == y.rank

/-- The numerical order, false when a NaN is compared. -/
def le (x y : Double) : Bool :=
  !x.isNaN && !y.isNaN && x.rank ≤ y.rank

/-- The numerical strict order, false when a NaN is compared. -/
def lt (x y : Double) : Bool :=
  !x.isNaN && !y.isNaN && x.rank < y.rank

/-- The nearest number within two limits: the number itself when it lies between them. -/
def clamp (x low high : Double) : Double :=
  let y := if x.lt low then low else x
  if high.lt y then high else y

/-! ## Rounding a quotient -/

/-- The natural number nearest to a quotient; of two equally near the even one. -/
def nearestEven (num den : Nat) : Nat :=
  let q := num / den
  let twice := 2 * (num % den)
  if twice > den || (twice == den && q % 2 == 1) then q + 1 else q

/-- The numerator of `num / den · 2 ^ shift` over the denominator that goes with it. -/
def scaledBy (num den : Nat) (shift : Int) : Nat × Nat :=
  (num * Nat.pow 2 shift.toNat, den * Nat.pow 2 (-shift).toNat)

/-- The greatest `e` with `2 ^ e ≤ num / den`, for positive operands. -/
def floorLog2 (num den : Nat) : Int :=
  let e : Int := (Nat.log2 num : Int) - Nat.log2 den
  let (a, b) := scaledBy num den (-e)
  if b ≤ a then e else e - 1

/-- The double nearest to a quotient, ties to the even coefficient; past the greatest finite
number it is an infinity. -/
def ofRatio (negative : Bool) (num den : Nat) : Double :=
  if num == 0 then zero negative
  else
    let unit : Int := max (floorLog2 num den - 52) (-1074)
    let (a, b) := scaledBy num den (-unit)
    let magnitude := (unit + 1074).toNat * normalUnit + nearestEven a b
    ofMagnitude negative (min magnitude infinityMagnitude)

/-- The double nearest to an integer. -/
def ofInt (n : Int) : Double :=
  ofRatio (n < 0) n.natAbs 1

/-- The integer nearest to a finite number; a half goes away from zero. -/
def toNearestInt (x : Double) : Int :=
  let (a, b) := scaledBy x.coefficient 1 x.scale
  let n := (2 * a + b) / (2 * b)
  if x.negative then -(n : Int) else n

/-- The 64-bit integer nearest to a finite number, held at the ends of the range. -/
def toNearestInt64 (x : Double) : Int64 :=
  Int64.ofInt (max Int64.minValue.toInt (min Int64.maxValue.toInt x.toNearestInt))

/-! ## A few numbers by name -/

/-- The number `0.7`. -/
def sevenTenths : Double := ofRatio false 7 10

/-- The number `2`. -/
def two : Double := ofInt 2

example : sevenTenths.toBits = 0x3fe6666666666666 := by decide
example : two.toBits = 0x4000000000000000 := by decide
example : (ofInt (-9007199254740993)).toBits = 0xc340000000000000 := by decide

end Double

end ProviderRegistry
