/-
Module: HttpScript.Proofs.Text.CodeUnit
Purpose: Columns count UTF-16 code units.  Here the code units of a text are written out, so that
  what a range cuts out of a line can be compared with the text it is said to hold.
Main exports: utf16, length_utf16, extract_utf16
-/
import HttpScript.Text.Units

namespace HttpScript.Text

/-- The code units of a character: one in the basic plane, else a high and a low surrogate. -/
def codeUnits (c : Char) : List UInt16 :=
  if c.toNat < 0x10000 then [UInt16.ofNat c.toNat]
  else
    let offset := c.toNat - 0x10000
    [UInt16.ofNat (0xD800 + offset / 0x400), UInt16.ofNat (0xDC00 + offset % 0x400)]

/-- The UTF-16 encoding of a text. -/
def utf16 (s : List Char) : List UInt16 :=
  s.flatMap codeUnits

theorem length_codeUnits (c : Char) : (codeUnits c).length = unitsOf c := by
  unfold codeUnits unitsOf
  split
  · rfl
  · rfl

@[simp] theorem utf16_append (s t : List Char) : utf16 (s ++ t) = utf16 s ++ utf16 t :=
  List.flatMap_append

@[simp] theorem length_utf16 (s : List Char) : (utf16 s).length = units s := by
  induction s with
  | nil => rfl
  | cons c s ih =>
      rw [utf16, List.flatMap_cons, List.length_append, length_codeUnits, units_cons]
      exact congrArg _ ih

/-- The columns at which a part of a line begins and ends cut this part out. -/
theorem extract_utf16 (before inside after : List Char) :
    (utf16 (before ++ (inside ++ after))).extract (units before) (units before + units inside) =
      utf16 inside := by
  rw [List.extract_eq_take_drop, utf16_append, List.drop_left' (length_utf16 before),
    Nat.add_sub_cancel_left, utf16_append, List.take_left' (length_utf16 inside)]

example : utf16 "é😀".toList = [0xE9, 0xD83D, 0xDE00] := by decide

end HttpScript.Text
