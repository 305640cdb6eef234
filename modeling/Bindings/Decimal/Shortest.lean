-- SUMMARY: The shortest decimal that reads back as a binary number, and its text.
import Bindings.Decimal.Binary64

/-!
# Shortest decimals

A decimal reads back as a number when it lies in the interval that rounds to the
number; the ends belong to it when the significand is even. Of the grids of one
digit, of two digits and so on, the first that has a point in the interval gives
the digits, and of two such points the nearer one, or the even one from half way.
-/
namespace Bindings

/-- `digits · 10 ^ exponent`. -/
structure Decimal where
  digits : Nat
  exponent : Int
  deriving DecidableEq, Repr

namespace Decimal

/-! ## Choosing the digits -/

/-- `10 ^ n`. -/
def tenTo (n : Nat) : Nat := Nat.pow 10 n

/-- The largest `e` with `10 ^ e ≤ num / den`, for a ratio that is no smaller
than the smallest positive `Binary64`. -/
def log10Ratio (num den : Nat) : Int :=
  if den ≤ num then ((Nat.toDigits 10 (num / den)).length : Int) - 1
  else
    match (List.range 400).find? fun e => decide (den ≤ num * tenTo e) with
    | some e => -(e : Int)
    | none => -400

/-- The interval around a number: the number and its two ends in one unit. -/
structure Interval where
  low : Nat
  value : Nat
  high : Nat
  withEnds : Bool

/-- The interval of `x` in units of a quarter of a step. Below a power of two the
steps are half as wide. -/
def Interval.around (x : Binary64) : Interval :=
  let m := x.significand
  let narrow := m == Binary64.twoTo 52 && decide (Binary64.minExponent < x.exponent)
  ⟨4 * m - (if narrow then 1 else 2), 4 * m, 4 * m + 2, m % 2 == 0⟩

/-- Whether `point / den` lies between the ends. -/
def Interval.holds (i : Interval) (point den : Nat) : Bool :=
  if i.withEnds then decide (i.low * den ≤ point ∧ point ≤ i.high * den)
  else decide (i.low * den < point ∧ point < i.high * den)

/-- The better neighbour of the number on the grid of multiples of
`gridNum / gridDen` units, if one lies in the interval. -/
def gridPoint? (i : Interval) (gridNum gridDen : Nat) : Option Nat :=
  let below := i.value * gridDen / gridNum
  let above := below + 1
  let toBelow := i.value * gridDen - below * gridNum
  let toAbove := above * gridNum - i.value * gridDen
  match i.holds (below * gridNum) gridDen, i.holds (above * gridNum) gridDen with
  | true, true =>
    if toBelow < toAbove then some below
    else if toAbove < toBelow then some above
    else some (below + below % 2)
  | true, false => some below
  | false, true => some above
  | false, false => none

/-- The power of ten `10 ^ e` as a ratio. -/
def power (e : Int) : Nat × Nat := if 0 ≤ e then (tenTo e.toNat, 1) else (1, tenTo (-e).toNat)

/-- Trailing zeros moved into the exponent. -/
def trimmed : (limit : Nat) → Decimal → Decimal
  | 0, x => x
  | limit + 1, x =>
    if x.digits ≠ 0 ∧ x.digits % 10 = 0 then
      trimmed limit ⟨x.digits / 10, x.exponent + 1⟩
    else x

/-- The shortest decimal that reads back as `x`, the nearest one of those. -/
def shortest (x : Binary64) : Decimal :=
  if x.isZero then ⟨0, 0⟩
  else
    let (num, den) := x.ratio
    let lead := log10Ratio num den
    let i := Interval.around x
    let found := (List.range 17).findSome? fun (n : Nat) =>
      let e := lead - n
      let (tenNum, tenDen) := power e
      let (gridNum, gridDen) := Binary64.scaled tenNum tenDen (2 - x.exponent)
      (gridPoint? i gridNum gridDen).map fun digits => (⟨digits, e⟩ : Decimal)
    trimmed 20 (found.getD ⟨0, 0⟩)

/-! ## Text -/

/-- Which decimals are written without an exponent: those with more than
`-leadingZeros` and at most `places` digits before the point. -/
structure Layout where
  leadingZeros : Nat
  places : Nat

def zeros (n : Nat) : String := String.ofList (List.replicate n '0')

/-- An exponent with its sign. -/
def exponentText (e : Int) : String :=
  if 0 ≤ e then "e+" ++ toString e else "e" ++ toString e

/-- A decimal with a point, or with an exponent where it would grow too long. -/
def text (layout : Layout) (x : Decimal) : String :=
  if x.digits = 0 then "0.0"
  else
    let digits := Nat.toDigits 10 x.digits
    let before : Int := digits.length + x.exponent
    if 0 ≤ x.exponent ∧ before ≤ layout.places then
      String.ofList digits ++ zeros x.exponent.toNat ++ ".0"
    else if 0 < before ∧ before ≤ layout.places then
      String.ofList (digits.take before.toNat) ++ "." ++ String.ofList (digits.drop before.toNat)
    else if -(layout.leadingZeros : Int) < before ∧ before ≤ 0 then
      "0." ++ zeros (-before).toNat ++ String.ofList digits
    else
      let fraction := digits.drop 1
      String.ofList (digits.take 1)
        ++ (if fraction.isEmpty then "" else "." ++ String.ofList fraction)
        ++ exponentText (before - 1)

end Decimal

end Bindings
