-- SUMMARY: Numbers of a configuration text: their parts, and the integer or float they stand for.
import Bindings.Config.Fault

/-!
# Numbers of a configuration text

A number without fraction and exponent is an integer if it fits into 64 bits,
signed when it is negative; every other number is a float. A float is made from a
significand of 64 bits and a power of ten, each rounded, and their product or
quotient is rounded again. Digits that no longer fit into the significand only
count for the power of ten.
-/
namespace Bindings.Config

/-- A number as it is written. -/
structure Numeral where
  negative : Bool
  whole : List Char
  fraction : List Char
  exponent : Option Int
  deriving DecidableEq, Repr

namespace Numeral

def digit (c : Char) : Nat := c.toNat - '0'.toNat

/-- The value of a list of digits. -/
def digitsValue (ds : List Char) : Nat := ds.foldl (fun n d => 10 * n + digit d) 0

/-- The largest significand. -/
def maxSignificand : Nat := Binary64.twoTo 64 - 1

/-- Append digits to a significand until one does not fit; the digits from there
on are left. -/
def gather (significand : Nat) : List Char → Nat × List Char
  | [] => (significand, [])
  | d :: ds =>
    let next := 10 * significand + digit d
    if next ≤ maxSignificand then gather next ds else (significand, d :: ds)

/-- `10 ^ n` as a float. -/
def tenTo? (n : Nat) : Option Binary64 := Binary64.ofNat? (Decimal.tenTo n)

/-- The largest exponent of a power of ten that is a float. -/
def maxTenExponent : Nat := 308

/-- `x / 10 ^ n`, by steps of at most `10 ^ maxTenExponent`. -/
def scaleDown (x : Binary64) (n : Nat) : Option Binary64 :=
  if n ≤ maxTenExponent then do
    let ten ← tenTo? n
    x.div? ten
  else if x.isZero then some x
  else do
    let ten ← tenTo? maxTenExponent
    let y ← x.div? ten
    scaleDown y (n - maxTenExponent)
termination_by n
decreasing_by simp_all [maxTenExponent]; omega

/-- `x · 10 ^ n`, unless it is too large. -/
def scaleUp (x : Binary64) (n : Nat) : Option Binary64 :=
  if n ≤ maxTenExponent then do
    let ten ← tenTo? n
    x.mul? ten
  else if x.isZero then some x else none

/-- `significand · 10 ^ exponent`, unless it is too large. -/
def magnitude? (significand : Nat) (exponent : Int) : Option Binary64 := do
  let x ← Binary64.ofNat? significand
  if 0 ≤ exponent then scaleUp x exponent.toNat else scaleDown x (-exponent).toNat

/-- What the number stands for, unless it is too large for a float. -/
def found? (n : Numeral) : Option Found := do
  let (significand, dropped) := gather 0 n.whole
  if n.fraction.isEmpty ∧ n.exponent.isNone ∧ dropped.isEmpty then
    if !n.negative then some (.integer significand)
    else if significand ≠ 0 ∧ significand ≤ Binary64.twoTo 63 then
      some (.integer (-(significand : Int)))
    else
      let x ← Binary64.ofNat? significand
      some (.float true x)
  else
    let (significand, left) := gather significand n.fraction
    let places := (dropped.length : Int) - ((n.fraction.length : Int) - left.length)
    let x ← magnitude? significand (places + n.exponent.getD 0)
    some (.float n.negative x)

end Numeral

end Bindings.Config
