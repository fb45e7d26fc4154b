/-
Module: HttpScript.Variable.Name
Purpose: The names that variables can have.  A reference reads the longest run of their characters,
  and an environment may define nothing that no reference could spell.
Main exports: isNameChar, isName, isName_eq_true_iff
-/

namespace HttpScript.Variable

/-- A character of a variable's name: a letter or digit of ASCII, or an underscore. -/
def isNameChar (c : Char) : Bool :=
  c.isAlphanum || c == '_'

/-- A name is not empty. -/
def isName (name : List Char) : Bool :=
  !name.isEmpty && name.all isNameChar

theorem isName_eq_true_iff {name : List Char} :
    isName name = true ↔ name ≠ [] ∧ ∀ c ∈ name, isNameChar c = true := by
  rw [isName, Bool.and_eq_true, Bool.not_eq_true', List.isEmpty_eq_false_iff, List.all_eq_true]

end HttpScript.Variable
