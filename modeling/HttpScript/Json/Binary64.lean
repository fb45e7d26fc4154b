/-
Module: HttpScript.Json.Binary64
Purpose: Finite binary floating-point numbers of 64 bits, as exact data.  A number is a natural
  mantissa times a power of two, and every operation is the exact rational result rounded to the
  nearest such number, ties to the even mantissa.
Main exports: Binary64, Binary64.ofRatio?, Binary64.mul?, Binary64.div?, Binary64.ofParts?
-/

namespace HttpScript.Json

/-- `n * base ^ e`, or just `n` when the exponent is negative.  A factor with an exponent of either
sign goes to the numerator or, with the opposite exponent, to the denominator. -/
def scaled (base n : Nat) (e : Int) : Nat :=
  n * Nat.pow base e.toNat

/-- `± mantissa * 2 ^ exponent`.  Numbers built by `ofRatio?` have their mantissa below `2 ^ 53`
and, unless they are too close to zero, at least `2 ^ 52`, so equal numbers are equal data. -/
structure Binary64 where
  negative : Bool
  mantissa : Nat
  exponent : Int
deriving Repr, DecidableEq, Inhabited

namespace Binary64

/-- The smallest mantissa of 53 bits. -/
def minMantissa : Nat := Nat.pow 2 52

/-- The exponent of the numbers closest to zero. -/
def minExponent : Int := -1074

/-- The exponent of the numbers farthest from zero. -/
def maxExponent : Int := 971

def zero (negative : Bool) : Binary64 :=
  ⟨negative, 0, minExponent⟩

def isZero (x : Binary64) : Bool :=
  x.mantissa == 0

/-- `num / den` rounded to the nearest integer, a tie going to the even one. -/
def roundDiv (num den : Nat) : Nat :=
  let q := num / den
  let r := num % den
  if 2 * r < den then q
  else if den < 2 * r then q + 1
  else if q % 2 = 0 then q else q + 1

/-- `num / den / 2 ^ e`, rounded. -/
def roundAt (num den : Nat) (e : Int) : Nat :=
  roundDiv (scaled 2 num (-e)) (scaled 2 den e)

/-- The exponent at which the mantissa of `num / den` has 53 bits, or the smallest one.  The first
estimate is at most one too large. -/
def exponentOf (num den : Nat) : Int :=
  let e : Int := (num.log2 : Int) - (den.log2 : Int) - 52
  let wide := scaled 2 num (-e) / scaled 2 den e < minMantissa
  max (if wide then e - 1 else e) minExponent

/-- The number nearest to `num / den`, if it is not beyond all numbers. -/
def ofRatio? (negative : Bool) (num den : Nat) : Option Binary64 :=
  if num = 0 then some (zero negative)
  else
    let e := exponentOf num den
    let m := roundAt num den e
    let (m, e) := if m = 2 * minMantissa then (minMantissa, e + 1) else (m, e)
    if maxExponent < e then none else some ⟨negative, m, e⟩

/-- The product of the magnitudes, with the sign of the first number. -/
def mul? (x y : Binary64) : Option Binary64 :=
  let e := x.exponent + y.exponent
  ofRatio? x.negative (scaled 2 (x.mantissa * y.mantissa) e) (scaled 2 1 (-e))

/-- The quotient of the magnitudes, with the sign of the first number. -/
def div? (x y : Binary64) : Option Binary64 :=
  let e := x.exponent - y.exponent
  ofRatio? x.negative (scaled 2 x.mantissa e) (scaled 2 y.mantissa (-e))

/-- The largest power of ten that is a number. -/
def maxPowerOfTen : Nat := 308

def powerOfTen (n : Nat) : Binary64 :=
  (ofRatio? false (Nat.pow 10 n) 1).getD (zero false)

/-- `x / 10 ^ n`, dividing by the largest power of ten as often as needed. -/
def shrink (x : Binary64) (n : Nat) : Binary64 :=
  if n ≤ maxPowerOfTen then (x.div? (powerOfTen n)).getD x
  else if x.isZero then x
  else shrink ((x.div? (powerOfTen maxPowerOfTen)).getD x) (n - maxPowerOfTen)
termination_by n
decreasing_by simp only [maxPowerOfTen] at *; omega

/-- The number written as `significand * 10 ^ exponent`: the significand is rounded first, then the
product or quotient.  `none` when it is beyond all numbers. -/
def ofParts? (negative : Bool) (significand : Nat) (exponent : Int) : Option Binary64 := do
  let x ← ofRatio? negative significand 1
  if 0 ≤ exponent then
    if exponent.toNat ≤ maxPowerOfTen then x.mul? (powerOfTen exponent.toNat)
    else if x.isZero then some x
    else none
  else some (shrink x (-exponent).toNat)

end Binary64

end HttpScript.Json
