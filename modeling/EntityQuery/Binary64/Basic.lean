/-!
# Binary64 numbers

Floating-point numbers in the IEEE interchange format with 64 bits, kept as their bits so that the
sign of zero and the payload of a NaN survive. A finite number is `± significand * 2 ^ exponent`.
-/
namespace EntityQuery

/-- A binary floating-point number of 64 bits. -/
structure Binary64 where
  bits : UInt64
  deriving DecidableEq, Repr, Inhabited

namespace Binary64

/-- The value of the sign bit, `2 ^ 63`. -/
def signBit : Nat := 0x8000000000000000

/-- The number of fractions, `2 ^ 52`. It is also the leading bit of a significand, which is not
stored. -/
def fractions : Nat := 0x10000000000000

/-- Whether the sign bit is set. Zeros and NaNs carry one as well. -/
def isNegative (x : Binary64) : Bool := signBit ≤ x.bits.toNat

/-- The eleven bits of the biased exponent. -/
def exponentField (x : Binary64) : Nat := x.bits.toNat / fractions % 2048

/-- The low 52 bits. -/
def fractionField (x : Binary64) : Nat := x.bits.toNat % fractions

/-- Neither an infinity nor a NaN. -/
def isFinite (x : Binary64) : Bool := x.exponentField != 2047

def isNaN (x : Binary64) : Bool := x.exponentField == 2047 && x.fractionField != 0

/-- Zero of either sign. -/
def isZero (x : Binary64) : Bool := x.exponentField == 0 && x.fractionField == 0

/-- The integer that a power of two scales to the magnitude of a finite number. -/
def significand (x : Binary64) : Nat :=
  if x.exponentField = 0 then x.fractionField else fractions + x.fractionField

/-- The power of two that scales the significand. -/
def exponent (x : Binary64) : Int := (max x.exponentField 1 : Nat) - 1075

/-- Equality of the numbers denoted: the two zeros are equal, and a NaN equals nothing. -/
def same (x y : Binary64) : Bool :=
  !x.isNaN && !y.isNaN && (x.bits == y.bits || (x.isZero && y.isZero))

/-- The magnitude of a finite number, if it is whole. -/
def wholeMagnitude? (x : Binary64) : Option Nat :=
  if 0 ≤ x.exponent then some (x.significand <<< x.exponent.toNat)
  else
    let unit := 1 <<< (-x.exponent).toNat
    if x.significand % unit = 0 then some (x.significand / unit) else none

/-- The binary64 number nearest to `10 ^ 38`. Whole numbers from here on are not read as
integers. -/
def integerLimit : Nat := 99999999999999997748809823456034029568

/-- The integer that a finite whole number below the limit denotes. -/
def toInt? (x : Binary64) : Option Int :=
  if x.isFinite then
    (x.wholeMagnitude?.filter (· < integerLimit)).map fun n =>
      if x.isNegative then -(n : Int) else (n : Int)
  else none

/-- Builds a number from its sign and the bits below the sign. -/
def ofSignBits (negative : Bool) (rest : Nat) : Binary64 :=
  ⟨UInt64.ofNat ((if negative then signBit else 0) + rest)⟩

/-- The bits below the sign of an infinity. -/
def infinityBits : Nat := 2047 * fractions

/-- The bits below the sign of the NaN that stands for an undefined result. -/
def quietNaNBits : Nat := infinityBits + fractions / 2

def infinity (negative : Bool) : Binary64 := ofSignBits negative infinityBits

def nan (negative : Bool) : Binary64 := ofSignBits negative quietNaNBits

def zero (negative : Bool) : Binary64 := ofSignBits negative 0

/-- The number that a binary number of 32 bits denotes; every one of them is representable. A NaN
becomes quiet and keeps its payload. -/
def ofBinary32 (bits : UInt32) : Binary64 :=
  let n := bits.toNat
  let negative : Bool := 0x80000000 ≤ n
  let exponent := n / 0x800000 % 256
  let fraction := n % 0x800000
  if exponent = 255 then
    if fraction = 0 then infinity negative
    else ofSignBits negative (quietNaNBits + (fraction % 0x400000) <<< 29)
  else if exponent = 0 then
    if fraction = 0 then zero negative
    else
      -- `fraction * 2 ^ -149`, whose leading bit becomes the hidden one
      let lead := fraction.log2
      ofSignBits negative ((874 + lead) * fractions + (fraction <<< (52 - lead) - fractions))
  else ofSignBits negative ((exponent + 896) * fractions + fraction <<< 29)

end Binary64

end EntityQuery
