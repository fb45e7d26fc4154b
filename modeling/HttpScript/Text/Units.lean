/-
Module: HttpScript.Text.Units
Purpose: Lengths of text in other units than characters.  Editors count columns in UTF-16 code
  units, files and JSON errors count bytes of UTF-8.
Main exports: units, splitAtByte
-/

namespace HttpScript.Text

/-- UTF-16 code units of one character: two beyond the basic plane. -/
def unitsOf (c : Char) : Nat :=
  if c.toNat < 0x10000 then 1 else 2

/-- Length in UTF-16 code units. -/
def units : List Char → Nat
  | [] => 0
  | c :: rest => unitsOf c + units rest

@[simp] theorem units_nil : units [] = 0 := rfl

@[simp] theorem units_cons (c : Char) (s : List Char) : units (c :: s) = unitsOf c + units s := rfl

@[simp] theorem units_append (s t : List Char) : units (s ++ t) = units s + units t := by
  induction s with
  | nil => simp
  | cons c s ih => simp [ih, Nat.add_assoc]

theorem unitsOf_pos (c : Char) : 0 < unitsOf c := by
  unfold unitsOf
  split <;> decide

theorem units_pos {s : List Char} (h : s ≠ []) : 0 < units s := by
  obtain ⟨c, rest, rfl⟩ := List.exists_cons_of_ne_nil h
  exact Nat.lt_of_lt_of_le (unitsOf_pos c) (Nat.le_add_right _ _)

/-- The text before and from a byte offset.  An offset inside a character counts as its end. -/
def splitAtByte : Nat → List Char → List Char × List Char
  | _, [] => ([], [])
  | n, c :: rest =>
    if n = 0 then ([], c :: rest)
    else
      let (before, after) := splitAtByte (n - c.utf8Size) rest
      (c :: before, after)

end HttpScript.Text
