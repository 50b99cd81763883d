import EntityQuery.Binary64.Decimal

/-!
# Scaling by powers of ten

Products and quotients of finite binary64 numbers, each rounded once, and the scaling of a number by
powers of ten that are rounded themselves. Scaling in such steps can miss the nearest number.
-/
namespace EntityQuery.Binary64

/-- The magnitude of a finite number as a quotient. -/
def magnitude (x : Binary64) : Nat × Nat :=
  (x.significand <<< x.exponent.toNat, 1 <<< (-x.exponent).toNat)

/-- The product of finite numbers, rounded. -/
def mul (x y : Binary64) : Binary64 :=
  ofRatio (x.isNegative != y.isNegative) (x.magnitude.1 * y.magnitude.1)
    (x.magnitude.2 * y.magnitude.2)

/-- The quotient of finite numbers, rounded; the divisor is not zero. -/
def div (x y : Binary64) : Binary64 :=
  ofRatio (x.isNegative != y.isNegative) (x.magnitude.1 * y.magnitude.2)
    (x.magnitude.2 * y.magnitude.1)

/-- The number nearest to a power of ten. -/
def powerOfTen (n : Nat) : Binary64 := ofDecimal false 1 n

/-- Divides by a power of ten. Powers beyond `10 ^ 308` are no finite numbers, so larger divisors
are taken in steps, until nothing is left. -/
def scaleDown (x : Binary64) (n : Nat) : Binary64 :=
  if n ≤ 308 then x.div (powerOfTen n)
  else if x.isZero then x
  else scaleDown (x.div (powerOfTen 308)) (n - 308)
termination_by n

/-- Multiplies by a power of ten, if the product is finite. -/
def scaleUp? (x : Binary64) (n : Nat) : Option Binary64 :=
  if n ≤ 308 then
    let y := x.mul (powerOfTen n)
    if y.isFinite then some y else none
  else if x.isZero then some x
  else none

end EntityQuery.Binary64
