import EntityQuery.Binary64.Basic
import EntityQuery.Text.Numeral

/-!
# Shortest decimals

The decimal number with the fewest digits that rounds to a given binary64 number, and among those
the nearest to it. For each count of digits the two neighbours of the number on the grid of that
count are tried; the first grid with a neighbour inside the rounding interval decides.
-/
namespace EntityQuery.Binary64

/-- Which of two equally near decimals is taken. -/
inductive Tie where
  | up
  | even
  deriving DecidableEq, Repr

/-- The decimal number `coefficient * 10 ^ exponent`. -/
structure Decimal where
  coefficient : Nat
  exponent : Int
  deriving DecidableEq, Repr

/-- Moves the zeros at the end of the coefficient into the exponent. -/
def Decimal.trimmed (d : Decimal) : Decimal :=
  if d.coefficient ≠ 0 ∧ d.coefficient % 10 = 0 then
    Decimal.trimmed ⟨d.coefficient / 10, d.exponent + 1⟩
  else d
termination_by d.coefficient
decreasing_by omega

/-- A positive number with the interval of the reals that round to it, all in units of
`2 ^ exponent`. -/
structure RoundingInterval where
  lower : Nat
  value : Nat
  upper : Nat
  exponent : Int
  /-- Whether the two ends round to the number as well. -/
  closed : Bool
  deriving Repr

/-- The interval of a positive finite number, in quarters of its unit in the last place. Below a
power of two the neighbours lie twice as dense. -/
def roundingInterval (x : Binary64) : RoundingInterval where
  lower :=
    4 * x.significand - if x.fractionField = 0 ∧ 1 < x.exponentField then 1 else 2
  value := 4 * x.significand
  upper := 4 * x.significand + 2
  exponent := x.exponent - 2
  closed := x.significand % 2 = 0

namespace RoundingInterval

/-- The count of digits before the point, or minus the count of zeros after it: the least `k` with
`value < 10 ^ k`. -/
def magnitude (i : RoundingInterval) : Int :=
  let num := i.value <<< i.exponent.toNat
  let den := 1 <<< (-i.exponent).toNat
  if den ≤ num then Text.decimalLength (num / den)
  else 1 - Text.decimalLength ((den + num - 1) / num - 1)

/-- The neighbour of the value among the multiples of `10 ^ grid` that lies in the interval; of two,
the nearer. -/
def onGrid (i : RoundingInterval) (tie : Tie) (grid : Int) : Option Nat :=
  let unit := Nat.pow 10 grid.toNat <<< (-i.exponent).toNat
  let scale := Nat.pow 10 (-grid).toNat <<< i.exponent.toNat
  let below := i.value * scale / unit
  let inside (d : Nat) : Bool :=
    if i.closed then i.lower * scale ≤ d * unit && d * unit ≤ i.upper * scale
    else i.lower * scale < d * unit && d * unit < i.upper * scale
  let down := i.value * scale - below * unit
  let up := (below + 1) * unit - i.value * scale
  match inside below, inside (below + 1) with
  | false, false => none
  | true, false => some below
  | false, true => some (below + 1)
  | true, true =>
      if down < up then some below
      else if up < down then some (below + 1)
      else match tie with
        | .up => some (below + 1)
        | .even => some (if below % 2 = 0 then below else below + 1)

/-- The shortest decimal in the interval. Seventeen digits always suffice. -/
def shortest (i : RoundingInterval) (tie : Tie) : Decimal :=
  let k := i.magnitude
  let hit := (List.range 17).findSome? fun (n : Nat) =>
    let grid := k - 1 - n
    (i.onGrid tie grid).map fun d => (⟨d, grid⟩ : Decimal)
  (hit.getD ⟨0, 0⟩).trimmed

end RoundingInterval

/-- The shortest decimal that rounds to the magnitude of a finite number. -/
def shortest (x : Binary64) (tie : Tie) : Decimal :=
  if x.isZero then ⟨0, 0⟩ else x.roundingInterval.shortest tie

end EntityQuery.Binary64
