import EntityQuery.Binary64.Round
import EntityQuery.Text.Numeral

/-!
# Binary64 numbers from decimal text

A number is written as an optional sign and either digits, with or without a point and an exponent,
or one of the words `inf`, `infinity` and `nan` in any case. At least one digit must stand before
the exponent, and at least one in it.
-/
namespace EntityQuery.Binary64

open Text

/-- The number nearest to `± coefficient * 10 ^ exponent`. Beyond 310 digits before the point a
number is infinite, and with 330 zeros after it a number is zero; neither needs its power of ten. -/
def ofDecimal (negative : Bool) (coefficient : Nat) (exponent : Int) : Binary64 :=
  let lead := exponent + decimalLength coefficient
  if coefficient = 0 then zero negative
  else if 310 < lead then infinity negative
  else if lead < -330 then zero negative
  else ofRatio negative (coefficient * Nat.pow 10 exponent.toNat) (Nat.pow 10 (-exponent).toNat)

/-- The digits at the start of a text, and what follows them. -/
def spanDigits (cs : List Char) : List Char × List Char := cs.span Char.isDigit

/-- The exponent at the end of a number: nothing, or `e` with a signed numeral. -/
def readExponent? : List Char → Option Int
  | [] => some 0
  | c :: cs => if c = 'e' ∨ c = 'E' then readInt? cs else none

/-- The fraction after the whole digits of a number, and what follows it. -/
def spanFraction : List Char → List Char × List Char
  | '.' :: cs => spanDigits cs
  | cs => ([], cs)

/-- A number without its sign: digits, with a point or not, and an exponent or not. -/
def readDigits? (negative : Bool) (cs : List Char) : Option Binary64 :=
  let whole := spanDigits cs
  let fraction := spanFraction whole.2
  let digits := whole.1 ++ fraction.1
  if digits.isEmpty then none
  else (readExponent? fraction.2).map fun exponent =>
    ofDecimal negative (Nat.ofDigitChars 10 digits 0) (exponent - fraction.1.length)

/-- A number without its sign. -/
def readUnsigned? (negative : Bool) (cs : List Char) : Option Binary64 :=
  let word := cs.map Char.toLower
  if word = ['i', 'n', 'f'] ∨ word = ['i', 'n', 'f', 'i', 'n', 'i', 't', 'y'] then
    some (infinity negative)
  else if word = ['n', 'a', 'n'] then some (nan negative)
  else readDigits? negative cs

/-- The number nearest to the one that a text denotes. -/
def read? : List Char → Option Binary64
  | '-' :: cs => readUnsigned? true cs
  | '+' :: cs => readUnsigned? false cs
  | cs => readUnsigned? false cs

end EntityQuery.Binary64
