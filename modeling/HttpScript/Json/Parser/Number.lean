/-
Module: HttpScript.Json.Parser.Number
Purpose: Reading the numbers of a JSON text.
Main exports: Parser.number
-/
import HttpScript.Json.Fault
import HttpScript.Json.Value
import HttpScript.Text.Digits

namespace HttpScript.Json.Parser

/-- The largest integer that stays exact. -/
def maxInteger : Nat := UInt64.size - 1

/-- The largest exponent that is counted. -/
def maxExponent : Nat := Int32.maxValue.toInt.toNat

/-- Appends decimal digits to a significand while it stays within `maxInteger`; gives back the
digits that no longer fit. -/
def accumulate : Nat → List Char → Nat × List Char
  | significand, [] => (significand, [])
  | significand, d :: more =>
    let next := significand * 10 + (Text.digitValue? 10 d).getD 0
    if next ≤ maxInteger then accumulate next more else (significand, d :: more)

/-- A number with a fraction or an exponent. -/
def real (negative : Bool) (significand : Nat) (exponent : Int) (rest : List Char) :
    Except Fault (Taken Number) :=
  match Binary64.ofParts? negative significand exponent with
  | some x => .ok (.real x, rest)
  | none => faultHere .numberOutOfRange rest

/-- Reads the digits of an exponent.  When it gets too large, also what is left after the digit that
made it so. -/
def exponentDigits : Nat → List Char → Nat × Option (List Char)
  | n, [] => (n, none)
  | n, c :: rest =>
    match Text.digitValue? 10 c with
    | some d =>
      if maxExponent < n * 10 + d then (n, some rest) else exponentDigits (n * 10 + d) rest
    | none => (n, none)

/-- What follows the letter of an exponent. -/
def exponent (negative : Bool) (significand : Nat) (start : Int) (s : List Char) :
    Except Fault (Taken Number) :=
  let (positive, s) := match s with
    | '+' :: rest => (true, rest)
    | '-' :: rest => (false, rest)
    | _ => (true, s)
  match s with
  | [] => faultHere .eofInValue []
  | c :: rest =>
    if c.isDigit then
      match exponentDigits 0 s with
      | (n, none) =>
        real negative significand (if positive then start + n else start - n)
          (s.dropWhile Char.isDigit)
      | (_, some left) =>
        if significand ≠ 0 ∧ positive then faultHere .numberOutOfRange left
        else .ok (.real (Binary64.zero negative), left.dropWhile Char.isDigit)
    else .error ⟨.invalidNumber, c :: rest, 1⟩

/-- What follows the point of a fraction.  Digits that no longer fit the significand are ignored. -/
def fraction (negative : Bool) (significand : Nat) (start : Int) (s : List Char) :
    Except Fault (Taken Number) :=
  let digits := s.takeWhile Char.isDigit
  let rest := s.dropWhile Char.isDigit
  if digits.isEmpty then
    if rest.isEmpty then faultHere .eofInValue rest else faultAtNext .invalidNumber rest
  else
    let (significand, unused) := accumulate significand digits
    let e := start - (digits.length - unused.length : Nat)
    match rest with
    | 'e' :: rest => exponent negative significand e rest
    | 'E' :: rest => exponent negative significand e rest
    | _ => real negative significand e rest

/-- An integer: exact when it fits, and a floating-point number otherwise.  So is minus zero. -/
def wholeNumber (negative : Bool) (n : Nat) : Number :=
  if negative then
    if n = 0 ∨ -n < Int64.minValue.toInt then
      .real ((Binary64.ofParts? true n 0).getD (Binary64.zero true))
    else .integer (-n)
  else .integer n

/-- What follows the digits before the point.  Digits that no longer fit the significand count as
powers of ten. -/
def afterInteger (negative : Bool) (significand : Nat) (unused : Nat) (s : List Char) :
    Except Fault (Taken Number) :=
  match s with
  | '.' :: rest => fraction negative significand unused rest
  | 'e' :: rest => exponent negative significand unused rest
  | 'E' :: rest => exponent negative significand unused rest
  | _ =>
    if unused = 0 then .ok (wholeNumber negative significand, s)
    else real negative significand unused s

/-- A number, after its sign. -/
def number (negative : Bool) (s : List Char) : Except Fault (Taken Number) :=
  match s with
  | [] => faultHere .eofInValue []
  | c :: rest =>
    if c = '0' then
      match rest with
      | d :: _ =>
        if d.isDigit then faultAtNext .invalidNumber rest else afterInteger negative 0 0 rest
      | [] => afterInteger negative 0 0 rest
    else if c.isDigit then
      let (significand, unused) := accumulate 0 (s.takeWhile Char.isDigit)
      afterInteger negative significand unused.length (s.dropWhile Char.isDigit)
    else .error ⟨.invalidNumber, s, 1⟩

end HttpScript.Json.Parser
