import EntityQuery.Binary64.Scale
import EntityQuery.Json.Basic

/-!
# Numbers and texts in JSON

What the spelling of a number and the elements of a string denote. An integer has neither point nor
exponent. A float is read in 64 bits: the digits that fit make the significand, which is rounded and
then scaled by a power of ten; a number beyond the finite ones is refused.
-/
namespace EntityQuery.Json

open Binary64 (spanDigits)

/-- The integer that a number spells. The negative zero is no integer. -/
def integer? (spelling : List Char) : Option Int :=
  if spelling = ['-', '0'] then none else Text.readInt? spelling

/-- Takes digits into a significand as long as it fits in 64 bits; gives the digits left over. -/
def accumulate (significand : Nat) : List Char → Nat × List Char
  | [] => (significand, [])
  | d :: ds =>
      let next := significand * 10 + (d.toNat - 48)
      if 0x10000000000000000 ≤ next then (significand, d :: ds) else accumulate next ds

/-- The fraction digits at the start of a text, and what follows them. -/
def spanFraction : List Char → List Char × List Char
  | '.' :: rest => spanDigits rest
  | rest => ([], rest)

/-- The exponent that follows the digits of a number. -/
def exponentOf : List Char → Int
  | _ :: rest => (Text.readInt? rest).getD 0
  | [] => 0

/-- The magnitude of a significand with a power of ten. An exponent beyond 32 bits stands for
nothing, or for a number that is refused. -/
def scaled? (significand : Nat) (written shift : Int) : Option Binary64 :=
  let x := Binary64.ofInt significand
  let exponent := shift + written
  if written < -0x7fffffff then some (.zero false)
  else if 0x7fffffff < written then if significand = 0 then some (.zero false) else none
  else if 0 ≤ exponent then x.scaleUp? exponent.toNat
  else some (x.scaleDown (-exponent).toNat)

/-- The magnitude that a number without its sign spells. -/
def magnitude? (spelling : List Char) : Option Binary64 :=
  let whole := spanDigits spelling
  let fraction := spanFraction whole.2
  let wholePart := accumulate 0 whole.1
  let parts := accumulate wholePart.1 fraction.1
  let shift : Int := wholePart.2.length - (fraction.1.length - parts.2.length : Nat)
  scaled? parts.1 (exponentOf fraction.2) shift

/-- The float that a number spells. -/
def float? : List Char → Option Binary64
  | '-' :: rest => (magnitude? rest).map fun x => Binary64.ofSignBits true x.bits.toNat
  | spelling => magnitude? spelling

/-- The text of the elements of a string. A code unit in the upper half of a pair needs its
partner. -/
def text? : List Element → Option (List Char)
  | [] => some []
  | .char c :: rest => (text? rest).map (c :: ·)
  | .unit high :: .unit low :: rest =>
      if high < 0xd800 ∨ 0xdfff < high then
        (text? (.unit low :: rest)).map (Char.ofNat high :: ·)
      else if high < 0xdc00 ∧ 0xdc00 ≤ low ∧ low ≤ 0xdfff then
        (text? rest).map (Char.ofNat (0x10000 + (high - 0xd800) * 1024 + (low - 0xdc00)) :: ·)
      else none
  | .unit n :: rest =>
      if n < 0xd800 ∨ 0xdfff < n then (text? rest).map (Char.ofNat n :: ·) else none

end EntityQuery.Json
