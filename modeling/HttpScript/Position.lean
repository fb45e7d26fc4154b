/-
Module: HttpScript.Position
Purpose: Positions and ranges in a document, the way editors count them: lines from zero, columns
  from zero in UTF-16 code units, ends exclusive.
Main exports: Position, Position.Before, Range, Range.onLine, Range.wholeLine, Range.span,
  Range.union
-/
import HttpScript.Text.Units

namespace HttpScript

/-- A place between two characters. -/
structure Position where
  line : Nat
  character : Nat
deriving Repr, DecidableEq, Inhabited

namespace Position

/-- Reading order: by line, and on one line by column. -/
def le (a b : Position) : Bool :=
  a.line < b.line || (a.line == b.line && a.character ≤ b.character)

/-- Strictly earlier in reading order. -/
def Before (a b : Position) : Prop :=
  a.line < b.line ∨ a.line = b.line ∧ a.character < b.character

theorem Before.trans {a b c : Position} (hab : a.Before b) (hbc : b.Before c) : a.Before c := by
  unfold Before at *
  omega

theorem Before.irrefl (a : Position) : ¬a.Before a := by
  unfold Before
  omega

def min (a b : Position) : Position :=
  if a.le b then a else b

def max (a b : Position) : Position :=
  if a.le b then b else a

end Position

/-- A stretch of a document, without the character at `stop`. -/
structure Range where
  start : Position
  stop : Position
deriving Repr, DecidableEq, Inhabited

namespace Range

/-- A range that stays on one line. -/
def onLine (line first last : Nat) : Range :=
  ⟨⟨line, first⟩, ⟨line, last⟩⟩

/-- The whole of a line, without its line end. -/
def wholeLine (line : Nat) (text : List Char) : Range :=
  onLine line 0 (Text.units text)

/-- The part `inside` of a line that begins with `before`. -/
def span (line : Nat) (before inside : List Char) : Range :=
  onLine line (Text.units before) (Text.units before + Text.units inside)

/-- The part of a line between two byte offsets. -/
def byteSpan (line : Nat) (text : List Char) (first last : Nat) : Range :=
  let (before, rest) := Text.splitAtByte first text
  span line before (Text.splitAtByte (last - first) rest).1

/-- The smallest range around two ranges. -/
def union (a b : Range) : Range :=
  ⟨a.start.min b.start, a.stop.max b.stop⟩

/-- From the beginning of a line to the end of a line that is the same or comes later. -/
theorem union_wholeLine {m n : Nat} {s t : List Char} (h : m < n ∨ m = n ∧ s = t) :
    (wholeLine m s).union (wholeLine n t) = ⟨⟨m, 0⟩, ⟨n, Text.units t⟩⟩ := by
  rcases h with h | ⟨rfl, rfl⟩
  · simp [union, wholeLine, onLine, Position.min, Position.max, Position.le, h]
  · simp [union, wholeLine, onLine, Position.min, Position.max, Position.le]

end Range

end HttpScript
