/-
Module: HttpScript.Json.Shortest
Purpose: The shortest decimal that reads back as a given binary number.
Main exports: Decimal, Binary64.shortest
-/
import HttpScript.Json.Binary64

namespace HttpScript.Json

/-- `digits * 10 ^ exponent`. -/
structure Decimal where
  digits : Nat
  exponent : Int
deriving Repr, DecidableEq, Inhabited

namespace Decimal

/-- Whether `d.digits * 10 ^ d.exponent` is at least `num / den`. -/
def atLeast (d : Decimal) (num den : Nat) : Bool :=
  scaled 10 num (-d.exponent) ≤ scaled 10 d.digits d.exponent * den

def atMost (d : Decimal) (num den : Nat) : Bool :=
  scaled 10 d.digits d.exponent * den ≤ scaled 10 num (-d.exponent)

/-- Moves zeros at the end of the digits into the exponent. -/
def normalize (d : Decimal) : Decimal :=
  if d.digits = 0 then d
  else if d.digits % 10 = 0 then normalize ⟨d.digits / 10, d.exponent + 1⟩
  else d
termination_by d.digits

end Decimal

namespace Binary64

/-- The real numbers that round to a given one lie between `low / unit` and `high / unit`, around
`mid / unit`; the ends belong to them when the mantissa is even. -/
structure Interval where
  low : Nat
  mid : Nat
  high : Nat
  unit : Nat
  closed : Bool
deriving Repr

/-- Four times the mantissa leaves room for half a step up and for the quarter step down that lies
below a power of two. -/
def interval (x : Binary64) : Interval :=
  let e := x.exponent - 2
  let narrow := x.mantissa == minMantissa && minExponent < x.exponent
  { low := scaled 2 (4 * x.mantissa - (if narrow then 1 else 2)) e
    mid := scaled 2 (4 * x.mantissa) e
    high := scaled 2 (4 * x.mantissa + 2) e
    unit := scaled 2 1 (-e)
    closed := x.mantissa % 2 == 0 }

def Interval.contains (i : Interval) (d : Decimal) : Bool :=
  if i.closed then d.atLeast i.low i.unit && d.atMost i.high i.unit
  else !d.atMost i.low i.unit && !d.atLeast i.high i.unit

/-- The exponent of the first decimal digit of `num / den`. -/
def leadingExponent (num den : Nat) : Int :=
  if den ≤ num then ((Nat.toDigits 10 (num / den)).length : Int) - 1
  else
    let inverse := (den + num - 1) / num
    if inverse ≤ 1 then 0 else -((Nat.toDigits 10 (inverse - 1)).length : Int)

/-- Of the two neighbours of the number on the grid with `n` digits, the one inside the interval; of
two inside it the nearer, and of two equally near the even one. -/
def Interval.candidate (i : Interval) (n : Nat) : Option Decimal :=
  let e := leadingExponent i.mid i.unit - ((n : Int) - 1)
  let num := scaled 10 i.mid (-e)
  let den := scaled 10 i.unit e
  let below := num / den
  let d : Decimal := ⟨below, e⟩
  let u : Decimal := ⟨below + 1, e⟩
  match i.contains d, i.contains u with
  | false, false => none
  | true, false => some d
  | false, true => some u
  | true, true =>
    -- twice the distance from below, against one step of the grid
    let twice := 2 * (num - below * den)
    if twice < den then some d
    else if den < twice then some u
    else if below % 2 = 0 then some d else some u

/-- The decimal with the fewest digits among those that read back as the number, and of these the
nearest.  Seventeen digits always suffice. -/
def shortest (x : Binary64) : Decimal :=
  if x.isZero then ⟨0, 0⟩
  else
    let i := x.interval
    (((List.range 17).findSome? (fun n => i.candidate (n + 1))).getD ⟨0, 0⟩).normalize

end Binary64

end HttpScript.Json
