import EntityQuery.Binary64.Shortest

/-!
# Binary64 numbers as text

A number is written with its shortest digits. A style says which numbers are written positionally
and which with an exponent, and how whole numbers and exponents look.
-/
namespace EntityQuery.Binary64

/-- The decisions of one notation. Numbers whose leading digit stands at a power of ten between
`least` and `greatest` are written positionally; a missing bound bounds nothing. -/
structure Style where
  least : Option Int
  greatest : Option Int
  /-- Whether a whole number in positional notation ends in `.0`. -/
  fraction : Bool
  /-- Whether a positive exponent carries a plus. -/
  plus : Bool
  tie : Tie
  deriving Repr

namespace Style

/-- Plain text: always positional, and a whole number has no point. -/
def plain : Style := ⟨none, none, false, false, .up⟩

/-- Outlines: positional from `0.0001` to below `10 ^ 16`, always with a point or an exponent. -/
def outline : Style := ⟨some (-4), some 15, true, false, .up⟩

/-- JSON: positional from `0.00001` to below `10 ^ 16`, always with a point or an exponent, and a
positive exponent carries its sign. -/
def json : Style := ⟨some (-5), some 15, true, true, .even⟩

/-- Whether a number whose leading digit stands at `10 ^ lead` is written positionally. -/
def isPositional (style : Style) (lead : Int) : Bool :=
  style.least.all (· ≤ lead) && style.greatest.all (lead ≤ ·)

/-- Digits with the point where the exponent puts it. -/
def positional (style : Style) (digits : List Char) (exponent : Int) : List Char :=
  let whole : Int := digits.length + exponent
  if 0 ≤ exponent then
    digits ++ List.replicate exponent.toNat '0' ++ if style.fraction then ['.', '0'] else []
  else if 0 < whole then digits.take whole.toNat ++ '.' :: digits.drop whole.toNat
  else '0' :: '.' :: List.replicate (-whole).toNat '0' ++ digits

/-- Digits with the point after the first, and the power of ten. -/
def scientific (style : Style) (digits : List Char) (lead : Int) : List Char :=
  digits.take 1 ++ (if digits.length = 1 then [] else '.' :: digits.drop 1) ++
    'e' :: (if style.plus ∧ 0 < lead then ['+'] else []) ++ Text.intChars lead

/-- The text of a decimal number. -/
def decimal (style : Style) (d : Decimal) : List Char :=
  let digits := Nat.toDigits 10 d.coefficient
  let lead : Int := digits.length + d.exponent - 1
  if style.isPositional lead then style.positional digits d.exponent
  else style.scientific digits lead

/-- The text of a number. -/
def write (style : Style) (x : Binary64) : String :=
  if x.isNaN then "NaN"
  else
    let magnitude :=
      if x.isFinite then style.decimal (x.shortest style.tie) else ['i', 'n', 'f']
    String.ofList (if x.isNegative then '-' :: magnitude else magnitude)

end Style

end EntityQuery.Binary64
