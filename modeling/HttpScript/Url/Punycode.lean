/-
Module: HttpScript.Url.Punycode
Purpose: The ASCII form of a label of a host name that has other characters.
Main exports: encode, decode?, asciiLabel
-/

namespace HttpScript.Url.Punycode

/-! The constants of the encoding. -/

def base : Nat := 36
def tMin : Nat := 1
def tMax : Nat := 26
def skew : Nat := 38
def damp : Nat := 700
def initialBias : Nat := 72
def initialN : Nat := 128

def digit (d : Nat) : Char :=
  if d < 26 then Char.ofNat ('a'.toNat + d) else Char.ofNat ('0'.toNat + (d - 26))

/-- How often a delta has to be divided before it is small, and what is left then. -/
def reduce (delta steps : Nat) : Nat × Nat :=
  if ((base - tMin) * tMax) / 2 < delta then reduce (delta / (base - tMin)) (steps + 1)
  else (delta, steps)
termination_by delta
decreasing_by simp only [base, tMin, tMax] at *; omega

/-- The bias for the next delta. -/
def adapt (delta count : Nat) (first : Bool) : Nat :=
  let delta := if first then delta / damp else delta / 2
  let (delta, steps) := reduce (delta + delta / count) 0
  base * steps + (base - tMin + 1) * delta / (delta + skew)

/-- Below which digit a number ends, by place. -/
def threshold (bias k : Nat) : Nat :=
  max tMin (min tMax (k - bias))

theorem threshold_pos (bias k : Nat) : 0 < threshold bias k := by
  unfold threshold tMin
  omega

/-- A delta as digits of a base that varies with the place. -/
def deltaDigits (bias : Nat) (q k : Nat) : List Char :=
  if q < threshold bias k then [digit q]
  else
    let above := q - threshold bias k
    let radix := base - threshold bias k
    digit (threshold bias k + above % radix) :: deltaDigits bias (above / radix) (k + base)
termination_by q
decreasing_by
  have positive := threshold_pos bias k
  have smaller : (q - threshold bias k) / (base - threshold bias k) ≤ q - threshold bias k :=
    Nat.div_le_self _ _
  omega

/-- What the encoding carries from one character to the next. -/
structure State where
  delta : Nat
  bias : Nat
  handled : Nat
  output : List Char

/-- One character of the text, while those of code point `n` are inserted. -/
def insertOne (n basicCount : Nat) (s : State) (c : Nat) : State :=
  if c < n then { s with delta := s.delta + 1 }
  else if c = n then
    { delta := 0
      bias := adapt s.delta (s.handled + 1) (s.handled == basicCount)
      handled := s.handled + 1
      output := s.output ++ deltaDigits s.bias s.delta base }
  else s

/-- The characters beyond ASCII are inserted in the order of their code points. -/
def encode (label : List Char) : List Char :=
  let points := label.map Char.toNat
  let basic := label.filter (fun c => c.toNat < 128)
  let others := ((points.filter (128 ≤ ·)).mergeSort (· ≤ ·)).eraseDups
  let start : State :=
    { delta := 0
      bias := initialBias
      handled := basic.length
      output := if basic.isEmpty then [] else basic ++ ['-'] }
  let step (acc : State × Nat) (m : Nat) : State × Nat :=
    let s := { acc.1 with delta := acc.1.delta + (m - acc.2) * (acc.1.handled + 1) }
    let s := points.foldl (insertOne m basic.length) s
    ({ s with delta := s.delta + 1 }, m + 1)
  (others.foldl step (start, initialN)).1.output

/-! ### Decoding -/

def digitValue? (c : Char) : Option Nat :=
  if c.isAlpha then some (c.toLower.toNat - 'a'.toNat)
  else if c.isDigit then some (c.toNat - '0'.toNat + 26)
  else none

/-- What decoding carries from one digit to the next: the deltas summed up so far and before the
current one, the place and weight of the next digit, and the text with all insertions. -/
structure Decoding where
  sum : Nat
  before : Nat
  place : Nat
  weight : Nat
  bias : Nat
  point : Nat
  output : List Char

namespace Decoding

def start (basic : List Char) : Decoding :=
  ⟨0, 0, base, 1, initialBias, initialN, basic⟩

/-- The end of a delta: one character is inserted.  The sum counts through all positions of the
text, once for each code point. -/
def insert? (s : Decoding) : Option Decoding :=
  let positions := s.output.length + 1
  let point := s.point + s.sum / positions
  let position := s.sum % positions
  if point.isValidChar then
    some {
      sum := position + 1
      before := position + 1
      place := base
      weight := 1
      bias := adapt (s.sum - s.before) positions (s.before == 0)
      point := point
      output := s.output.insertIdx position (Char.ofNat point) }
  else none

/-- One more digit.  Numbers have to stay below the size of a word of 32 bits. -/
def digit? (s : Decoding) (c : Char) : Option Decoding :=
  match digitValue? c with
  | none => none
  | some d =>
    let limit := threshold s.bias s.place
    let s := { s with sum := s.sum + d * s.weight }
    if UInt32.size ≤ s.sum then none
    else if d < limit then s.insert?
    else
      let weight := s.weight * (base - limit)
      if UInt32.size ≤ weight then none
      else some { s with place := s.place + base, weight := weight }

end Decoding

/-- The text of a label that was encoded.  What stands before its last hyphen is kept as it is. -/
def decode? (encoded : List Char) : Option (List Char) :=
  let digits := (encoded.reverse.takeWhile (· ≠ '-')).reverse
  let kept := encoded.take (encoded.length - digits.length)
  if kept = ['-'] then none
  else match digits.foldlM Decoding.digit? (.start kept.dropLast) with
    | some s => if s.place = base then some s.output else none
    | none => none

/-! ### Labels -/

/-- What marks a label as encoded. -/
def mark : List Char := ['x', 'n', '-', '-']

/-- The label in ASCII. -/
def asciiLabel (label : List Char) : List Char :=
  if label.all (fun c => c.toNat < 128) then label else mark ++ encode label

end HttpScript.Url.Punycode
