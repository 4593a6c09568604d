/-!
# Double precision numbers

A double is its 64 bits.  Finite ones are read as an exact dyadic value, a sign, a mantissa and a
power of two; every operation here is exact arithmetic on that value, rounded once to the nearest
double with ties to the even mantissa.
-/

namespace TypeSchema

/-- A binary number of 64 bits: sign, eleven bits of exponent, 52 bits of fraction. -/
structure Double where
  bits : UInt64
deriving DecidableEq, Repr, Inhabited

namespace Double

/-- The weight of the sign bit. -/
def signBit : Nat := 0x8000000000000000

/-- The weight of the lowest bit of the exponent, one more than the greatest fraction. -/
def exponentBit : Nat := 0x10000000000000

/-- The bits of the least magnitude that is not finite. -/
def infinityBits : Nat := 0x7FF * exponentBit

/-- The sign bit is set. -/
def negative (d : Double) : Bool := signBit ≤ d.bits.toNat

/-- All bits but the sign. -/
def magnitude (d : Double) : Nat := d.bits.toNat % signBit

/-- The double of a sign and the bits of a magnitude. -/
def ofMagnitude (negative : Bool) (magnitude : Nat) : Double :=
  ⟨((if negative then signBit else 0) + magnitude % signBit).toUInt64⟩

/-- Zero without a sign. -/
def zero : Double := ofMagnitude false 0

/-- The value that is no number. -/
def nan : Double := ofMagnitude false (infinityBits + exponentBit / 2)

/-- Infinity of either sign. -/
def infinity (negative : Bool) : Double := ofMagnitude negative infinityBits

/-- The double is no number. -/
def isNaN (d : Double) : Bool := infinityBits < d.magnitude

/-- The double is a finite number. -/
def isFinite (d : Double) : Bool := d.magnitude < infinityBits

/-- The double is zero of either sign. -/
def isZero (d : Double) : Bool := d.magnitude = 0

/-- The mantissa of a finite double, its leading bit included. -/
def mantissa (d : Double) : Nat :=
  if d.magnitude / exponentBit = 0 then d.magnitude else d.magnitude % exponentBit + exponentBit

/-- The power of two a finite double's mantissa is multiplied by. -/
def scale (d : Double) : Int :=
  max (d.magnitude / exponentBit : Nat) 1 - 1075

/-- Numbers in order of their value; both zeros have one place. -/
def order (d : Double) : Int :=
  if d.negative then -(d.magnitude : Int) else d.magnitude

/-- Both are numbers and the first is less. -/
def lt (a b : Double) : Bool :=
  !a.isNaN && !b.isNaN && a.order < b.order

/-- Both are numbers and the first is not greater. -/
def le (a b : Double) : Bool :=
  !a.isNaN && !b.isNaN && a.order ≤ b.order

/-- Both are numbers of one value: the zeros are alike, and what is no number is like nothing. -/
def same (a b : Double) : Bool :=
  !a.isNaN && !b.isNaN && a.order = b.order

/-- The double with the other sign. -/
def neg (d : Double) : Double := ofMagnitude (!d.negative) d.magnitude

/-! ## Rounding -/

/-- The quotient rounded to the nearest whole number, a half to the even one. -/
def roundEven (num den : Nat) : Nat :=
  let q := num / den
  let r := num % den
  if den < 2 * r ∨ (2 * r = den ∧ q % 2 = 1) then q + 1 else q

/-- `num / den` is at least `2 ^ e`. -/
def atLeastPow2 (num den : Nat) (e : Int) : Bool :=
  den * Nat.pow 2 e.toNat ≤ num * Nat.pow 2 (-e).toNat

/-- The scale at which `num / den` has a mantissa of 53 bits, or the least scale of all. -/
def scaleOf (num den : Nat) : Int :=
  let q := max ((num.log2 : Int) - den.log2 - 53) (-1074)
  if atLeastPow2 num den (q + 53) then q + 1 else q

/-- The bits of the magnitude nearest to `num / den`.  A mantissa that rounds up to the next power
of two carries into the exponent, and what is too large is infinite. -/
def nearestMagnitude (num den : Nat) : Nat :=
  let q := scaleOf num den
  let m := roundEven (num * Nat.pow 2 (-q).toNat) (den * Nat.pow 2 q.toNat)
  min ((q + 1074).toNat * exponentBit + m) infinityBits

/-- The double nearest to a ratio. -/
def ofRatio (negative : Bool) (num den : Nat) : Double :=
  ofMagnitude negative (if num = 0 then 0 else nearestMagnitude num den)

/-- The double nearest to a whole number. -/
def ofInt (i : Int) : Double :=
  ofRatio (i < 0) i.natAbs 1

/-- A finite double's magnitude as a ratio. -/
def ratio (d : Double) : Nat × Nat :=
  (d.mantissa * Nat.pow 2 d.scale.toNat, Nat.pow 2 (-d.scale).toNat)

/-- The product of two finite doubles. -/
def mul (a b : Double) : Double :=
  let (an, ad) := a.ratio
  let (bn, bd) := b.ratio
  ofRatio (a.negative != b.negative) (an * bn) (ad * bd)

/-- The quotient of two finite doubles, the second not zero. -/
def div (a b : Double) : Double :=
  let (an, ad) := a.ratio
  let (bn, bd) := b.ratio
  ofRatio (a.negative != b.negative) (an * bd) (ad * bn)

/-- The double nearest to `n · 10 ^ e`.  Exponents far outside the range of doubles are settled
without the power. -/
def ofDecimal (negative : Bool) (n : Nat) (e : Int) : Double :=
  if n = 0 then ofMagnitude negative 0
  else if 400 < e + (Nat.toDigits 10 n).length then infinity negative
  else if e + (Nat.toDigits 10 n).length < -400 then ofMagnitude negative 0
  else ofRatio negative (n * Nat.pow 10 e.toNat) (Nat.pow 10 (-e).toNat)

/-- The magnitude of a finite double without its fraction. -/
def wholePart (d : Double) : Nat :=
  let (n, m) := d.ratio
  n / m

/-- A finite double without a fraction. -/
def isWhole (d : Double) : Bool :=
  let (n, m) := d.ratio
  d.isFinite && n % m == 0

example : (ofDecimal false 1 0).bits = 0x3FF0000000000000 := by decide +kernel
example : (ofDecimal false 5 (-324)).bits = 1 := by decide +kernel
example : (ofDecimal true 17976931348623159 292).isFinite = false := by decide +kernel

end Double

end TypeSchema
