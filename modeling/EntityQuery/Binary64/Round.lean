import EntityQuery.Binary64.Basic

/-!
# Rounding to binary64

The binary64 number nearest to a quotient of natural numbers, to an integer or to a decimal number;
a tie goes to the even significand, and what is too large becomes an infinity.
-/
namespace EntityQuery.Binary64

/-- The quotient rounded to the nearest integer, ties to even. -/
def divRound (num den : Nat) : Nat :=
  let q := num / den
  let r := num % den
  if 2 * r < den ∨ (2 * r = den ∧ q % 2 = 0) then q else q + 1

/-- Whether `num / den` is at least `2 ^ e`. -/
def atLeastPower (num den : Nat) (e : Int) : Bool := den <<< e.toNat ≤ num <<< (-e).toNat

/-- The greatest `e` with `2 ^ e ≤ num / den`, for positive `num` and `den`. -/
def floorLog2 (num den : Nat) : Int :=
  let e : Int := (num.log2 : Int) - den.log2
  if atLeastPower num den e then e else e - 1

/-- The bits below the sign of the number nearest to a positive quotient. -/
def roundedBits (num den : Nat) : Nat :=
  let scale : Int := max (floorLog2 num den - 52) (-1074)
  let significand := divRound (num <<< (-scale).toNat) (den <<< scale.toNat)
  min ((scale + 1074).toNat * fractions + significand) infinityBits

/-- The number nearest to `± num / den`. -/
def ofRatio (negative : Bool) (num den : Nat) : Binary64 :=
  if num = 0 then zero negative else ofSignBits negative (roundedBits num den)

/-- The number nearest to an integer. -/
def ofInt (n : Int) : Binary64 := ofRatio (n < 0) n.natAbs 1

end EntityQuery.Binary64
