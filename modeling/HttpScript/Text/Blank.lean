/-
Module: HttpScript.Text.Blank
Purpose: Blank characters, and the trimming and splitting of text at them.  Lines, keys, header
  fields and request lines of a script are all delimited by the one class defined here.
Main exports: isBlank, IsBlankLine, trimLeft, trimRight, trim, words
-/

namespace HttpScript.Text

/-- The characters with the Unicode property `White_Space`. -/
def isBlank (c : Char) : Bool :=
  let n := c.toNat
  (0x09 ≤ n && n ≤ 0x0D) || n == 0x20 || n == 0x85 || n == 0xA0 || n == 0x1680
    || (0x2000 ≤ n && n ≤ 0x200A) || n == 0x2028 || n == 0x2029 || n == 0x202F || n == 0x205F
    || n == 0x3000

/-- Core's ASCII class lies inside the class used here. -/
theorem isBlank_of_isWhitespace {c : Char} (h : c.isWhitespace = true) : isBlank c = true := by
  simp only [Char.isWhitespace, Bool.or_eq_true, decide_eq_true_eq] at h
  rcases h with ((rfl | rfl) | rfl) | rfl <;> decide

/-- A line of blanks only; the empty line is one. -/
def isBlankLine (line : List Char) : Bool :=
  line.all isBlank

def trimLeft (s : List Char) : List Char :=
  s.dropWhile isBlank

def trimRight (s : List Char) : List Char :=
  (s.reverse.dropWhile isBlank).reverse

/-- The text without the blanks at its two ends. -/
def trim (s : List Char) : List Char :=
  trimRight (trimLeft s)

/-- The maximal runs of characters that are not blank, in order. -/
def words (s : List Char) : List (List Char) :=
  (s.splitOnP isBlank).filter (fun run => !run.isEmpty)

/-- The text after `lead`, when it starts with it. -/
def dropLead? (lead s : List Char) : Option (List Char) :=
  if lead.isPrefixOf s then some (s.drop lead.length) else none

theorem dropLead?_eq_some_iff {lead s rest : List Char} :
    dropLead? lead s = some rest ↔ s = lead ++ rest := by
  unfold dropLead?
  constructor
  · intro h
    split at h
    · next hlead =>
      obtain ⟨after, rfl⟩ := List.isPrefixOf_iff_prefix.mp hlead
      simpa using h
    · cases h
  · rintro rfl
    simp

/-- The text before `tail`, when it ends with it. -/
def dropTail? (tail s : List Char) : Option (List Char) :=
  if tail.isSuffixOf s then some (s.take (s.length - tail.length)) else none

theorem dropTail?_append (s tail : List Char) : dropTail? tail (s ++ tail) = some s := by
  simp [dropTail?]

theorem dropTail?_eq_some_iff {tail s rest : List Char} :
    dropTail? tail s = some rest ↔ s = rest ++ tail := by
  constructor
  · intro h
    unfold dropTail? at h
    split at h
    next htail =>
      obtain ⟨before, rfl⟩ := List.isSuffixOf_iff_suffix.mp htail
      simpa using h
    next => cases h
  · rintro rfl
    exact dropTail?_append rest tail

end HttpScript.Text
