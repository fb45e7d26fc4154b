/-
Module: HttpScript.Text.Digits
Purpose: Natural numbers written in digits of a base up to sixteen.
Main exports: hexValue?, digitValue?, numeral?, numeral?_ten_eq_some_iff, hexDigits
-/

namespace HttpScript.Text

/-- The value of a hexadecimal digit of either case. -/
def hexValue? (c : Char) : Option Nat :=
  if c.isDigit then some (c.toNat - '0'.toNat)
  else if 'a' ≤ c ∧ c ≤ 'f' then some (c.toNat - 'a'.toNat + 10)
  else if 'A' ≤ c ∧ c ≤ 'F' then some (c.toNat - 'A'.toNat + 10)
  else none

/-- The value of a digit of the given base. -/
def digitValue? (base : Nat) (c : Char) : Option Nat :=
  (hexValue? c).filter (· < base)

theorem digitValue?_lt {base : Nat} {c : Char} {n : Nat} (h : digitValue? base c = some n) :
    n < base := by
  simpa using (Option.filter_eq_some_iff.mp h).2

/-- The number that some digits write, the first one with the greatest weight.  No digits write
zero, and a character that is no digit of the base spoils the number. -/
def numeral? (base : Nat) (digits : List Char) : Option Nat :=
  digits.foldlM (fun n c => (digitValue? base c).map (n * base + ·)) 0

@[simp] theorem numeral?_nil (base : Nat) : numeral? base [] = some 0 := rfl

/-- The letters among the hexadecimal digits are no decimal ones. -/
theorem digitValue?_ten (c : Char) :
    digitValue? 10 c = if c.isDigit then some (c.toNat - '0'.toNat) else none := by
  have hzero : '0'.toNat = 48 := rfl
  unfold digitValue? hexValue?
  split
  next hdigit =>
    have hle : c.toNat ≤ 57 := by
      simp only [Char.isDigit, Bool.and_eq_true, decide_eq_true_eq] at hdigit
      exact hdigit.2
    simp only [Option.filter_some, decide_eq_true_eq]
    rw [if_pos (by omega)]
  next =>
    split
    · simp [Option.filter_some]
    · split
      · simp [Option.filter_some]
      · rfl

theorem foldlM_digitValue?_ten (digits : List Char) (n : Nat) :
    digits.foldlM (fun n c => (digitValue? 10 c).map (n * 10 + ·)) n =
      if digits.all Char.isDigit then some (Nat.ofDigitChars 10 digits n) else none := by
  induction digits generalizing n with
  | nil => rfl
  | cons c digits ih =>
      rw [List.foldlM_cons, digitValue?_ten]
      cases hc : c.isDigit with
      | false => simp [hc]
      | true =>
        simp only [if_true, Option.map_some, Option.bind_eq_bind, Option.bind_some, ih, List.all_cons, hc,
          Bool.true_and, Nat.ofDigitChars_cons, Nat.mul_comm n]

/-- Decimal numbers are written in decimal digits, of which there may be none. -/
theorem numeral?_ten_eq_some_iff {digits : List Char} {n : Nat} :
    numeral? 10 digits = some n ↔
      (∀ c ∈ digits, c.isDigit = true) ∧ Nat.ofDigitChars 10 digits 0 = n := by
  rw [numeral?, foldlM_digitValue?_ten, ← List.all_eq_true]
  split
  next hall => simp [hall]
  next hall => simp [hall]

/-- Hexadecimal digits in lower case, without leading zeros. -/
def hexDigits (n : Nat) : List Char :=
  Nat.toDigits 16 n

end HttpScript.Text
