/-
Module: HttpScript.Text.Lines
Purpose: The two ways a text is cut into lines.  Scripts are read with `lines`, where a final line
  end opens no further line; variable tokens are searched in `pieces`, where it does.  The two agree
  on every line they both have except on a bare carriage return at the very end of a text.
Main exports: lines, pieces, joinLines, notMem_of_mem_splitOn, getElem?_lines
-/

namespace HttpScript.Text

/-- A line without the carriage return that belonged to its line end. -/
def dropCarriageReturn (line : List Char) : List Char :=
  if line.getLast? = some '\r' then line.dropLast else line

/-- The text between line feeds, each without one final carriage return.  There is always at least
one piece. -/
def pieces (s : List Char) : List (List Char) :=
  (s.splitOn '\n').map dropCarriageReturn

/-- Lines from the text between line feeds: only a piece that a line feed follows is ended by it, so
only there a carriage return belongs to the line end, and an empty last piece is no line. -/
def linesOfPieces : List (List Char) → List (List Char)
  | [] => []
  | [last] => if last.isEmpty then [] else [last]
  | piece :: rest => dropCarriageReturn piece :: linesOfPieces rest

/-- The lines of a text, ended by a line feed or by a carriage return and a line feed. -/
def lines (s : List Char) : List (List Char) :=
  linesOfPieces (s.splitOn '\n')

/-- The text with a line feed between lines. -/
def joinLines (ls : List (List Char)) : List Char :=
  ['\n'].intercalate ls

/-- Separators stand between the parts of a list and not inside them. -/
theorem notMem_of_mem_splitOn {α : Type} [BEq α] [LawfulBEq α] {separator : α} {l part : List α}
    (h : part ∈ l.splitOn separator) : separator ∉ part := by
  induction l generalizing part with
  | nil =>
    rw [List.splitOn_nil, List.mem_singleton] at h
    subst h
    exact List.not_mem_nil
  | cons a l ih =>
    obtain ⟨first, others, hsplit⟩ :=
      List.exists_cons_of_ne_nil (List.splitOn_ne_nil separator l)
    rw [List.splitOn_cons_eq_if_modifyHead, hsplit] at h
    rw [hsplit] at ih
    by_cases ha : a = separator
    · rw [if_pos (by simpa using ha)] at h
      rcases List.mem_cons.mp h with rfl | h
      · exact List.not_mem_nil
      · exact ih h
    · rw [if_neg (by simpa using ha), List.modifyHead_cons] at h
      rcases List.mem_cons.mp h with rfl | h
      · have hfirst : separator ∉ first := ih (by simp)
        simpa [hfirst] using Ne.symm ha
      · exact ih (by simp [h])

theorem dropCarriageReturn_eq (line : List Char) :
    line = dropCarriageReturn line ∨ line = dropCarriageReturn line ++ ['\r'] := by
  unfold dropCarriageReturn
  split
  · next hlast =>
    obtain ⟨front, rfl⟩ := List.getLast?_eq_some_iff.mp hlast
    exact .inr (by rw [List.dropLast_concat])
  · exact .inl rfl

theorem notMem_of_mem_pieces {s piece : List Char} (h : piece ∈ pieces s) : '\n' ∉ piece := by
  obtain ⟨part, hpart, rfl⟩ := List.mem_map.mp h
  have hnone := notMem_of_mem_splitOn hpart
  rcases dropCarriageReturn_eq part with heq | heq
  · rwa [← heq]
  · intro hmem
    rw [heq] at hnone
    exact hnone (List.mem_append_left _ hmem)

/-- A piece is the line of the same number, but for a carriage return at the end of the text, or
there is no such line and the piece is empty. -/
theorem getElem?_lines (s : List Char) (n : Nat) :
    (lines s)[n]? = (pieces s)[n]? ∨
      (∃ piece, (pieces s)[n]? = some piece ∧ (lines s)[n]? = some (piece ++ ['\r'])) ∨
      ((pieces s)[n]? = some [] ∧ (lines s)[n]? = none) := by
  unfold lines pieces
  generalize s.splitOn '\n' = parts
  fun_induction linesOfPieces parts generalizing n with
  | case1 => exact .inl rfl
  | case2 last hempty =>
    obtain rfl := List.isEmpty_iff.mp hempty
    cases n with
    | zero => exact .inr (.inr ⟨rfl, rfl⟩)
    | succ n => exact .inl rfl
  | case3 last hempty =>
    cases n with
    | zero =>
      rcases dropCarriageReturn_eq last with heq | heq
      · exact .inl (congrArg some heq)
      · exact .inr (.inl ⟨_, rfl, congrArg some heq⟩)
    | succ n => exact .inl rfl
  | case4 piece rest hrest ih =>
    cases n with
    | zero => exact .inl rfl
    | succ n => exact ih n

end HttpScript.Text
