-- SUMMARY: Finite binary numbers of 53 bits, rounded exactly from ratios of natural numbers.

/-!
# Binary numbers of 53 bits

A `Binary64` is `significand · 2 ^ exponent`. Every operation takes the exact
result as a ratio and rounds it once, to the nearest representable number, and to
the even significand from half way. A result that is too large is `none`.
-/
namespace Bindings

/-- A finite number that is not negative. -/
structure Binary64 where
  significand : Nat
  exponent : Int
  deriving DecidableEq, Repr

namespace Binary64

/-- The exponent of the smallest steps. -/
def minExponent : Int := -1074

/-- The exponent of the largest steps. -/
def maxExponent : Int := 971

/-- `2 ^ n`. -/
def twoTo (n : Nat) : Nat := Nat.pow 2 n

def zero : Binary64 := ⟨0, minExponent⟩

/-- `num / den` rounded to an integer, to the even one from half way. -/
def roundHalfEven (num den : Nat) : Nat :=
  let q := num / den
  let r := num % den
  if 2 * r < den then q else if den < 2 * r then q + 1 else q + q % 2

/-- The ratio `num / den · 2 ^ e`. -/
def scaled (num den : Nat) (e : Int) : Nat × Nat :=
  if 0 ≤ e then (num * twoTo e.toNat, den) else (num, den * twoTo (-e).toNat)

/-- The largest `e` with `2 ^ e ≤ num / den`, for a positive ratio. -/
def log2Ratio (num den : Nat) : Int :=
  let e := (num.log2 : Int) - (den.log2 : Int)
  let (n, d) := scaled num den (-e)
  if n < d then e - 1 else e

/-- The number nearest to `num / den`, unless it is too large. -/
def ofRatio? (num den : Nat) : Option Binary64 :=
  if num = 0 then some zero
  else
    let e := max (log2Ratio num den - 52) minExponent
    let (n, d) := scaled num den (-e)
    let m := roundHalfEven n d
    let (m, e) := if m = twoTo 53 then (twoTo 52, e + 1) else (m, e)
    if maxExponent < e then none else some ⟨m, e⟩

def ofNat? (n : Nat) : Option Binary64 := ofRatio? n 1

def isZero (x : Binary64) : Bool := x.significand == 0

/-- The number as a ratio. -/
def ratio (x : Binary64) : Nat × Nat := scaled x.significand 1 x.exponent

def mul? (x y : Binary64) : Option Binary64 :=
  let (n, d) := x.ratio
  let (n', d') := y.ratio
  ofRatio? (n * n') (d * d')

def div? (x y : Binary64) : Option Binary64 :=
  let (n, d) := x.ratio
  let (n', d') := y.ratio
  ofRatio? (n * d') (d * n')

end Binary64

end Bindings
