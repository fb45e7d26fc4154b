/-
Module: HttpScript.Proofs.Text.LineEnd
Purpose: The lines of a text that was written line by line.  Line feeds between lines are found
  again, and a carriage return in front of each of them makes no difference, as long as no line
  brings one of its own.
Main exports: notMem_of_mem_lines, lines_joinLines, EndsPlainly, endsPlainly_of_joinLines,
  joinLines_append_splitOn, withCarriageReturns, lines_joinLines_of_endsPlainly
-/
import HttpScript.Text.Lines
import Mathlib.Data.List.Infix

namespace HttpScript.Text

/-! ### Lines of joined lines -/

theorem notMem_dropCarriageReturn {line : List Char} {c : Char} (h : c ∉ line) :
    c ∉ dropCarriageReturn line := by
  intro hmem
  apply h
  rcases dropCarriageReturn_eq line with heq | heq
  · rw [heq]
    exact hmem
  · rw [heq]
    exact List.mem_append_left _ hmem

theorem notMem_of_mem_linesOfPieces {parts : List (List Char)} {c : Char}
    (h : ∀ part ∈ parts, c ∉ part) : ∀ line ∈ linesOfPieces parts, c ∉ line := by
  fun_induction linesOfPieces parts with
  | case1 => exact h
  | case2 last _ => exact fun line hline => (List.not_mem_nil hline).elim
  | case3 last _ => exact h
  | case4 part rest _ ih =>
      obtain ⟨hpart, hrest⟩ := List.forall_mem_cons.mp h
      exact List.forall_mem_cons.mpr ⟨notMem_dropCarriageReturn hpart, ih hrest⟩

/-- A line is a line. -/
theorem notMem_of_mem_lines {s line : List Char} (h : line ∈ lines s) : '\n' ∉ line :=
  notMem_of_mem_linesOfPieces (fun _ hpart => notMem_of_mem_splitOn hpart) line h

/-- Lines that are joined are cut at the same places again. -/
theorem lines_joinLines {ls : List (List Char)} (hne : ls ≠ []) (h : ∀ line ∈ ls, '\n' ∉ line) :
    lines (joinLines ls) = linesOfPieces ls := by
  rw [lines, joinLines, List.splitOn_intercalate '\n' h hne]

/-- The first of some lines stays the first, perhaps without a carriage return. -/
theorem exists_linesOfPieces_cons {first : List Char} (hne : first ≠ [])
    (rest : List (List Char)) : ∃ first' rest', linesOfPieces (first :: rest) = first' :: rest' ∧
      (first' = first ∨ first' = dropCarriageReturn first) := by
  cases rest with
  | nil =>
      refine ⟨first, [], ?_, .inl rfl⟩
      rw [linesOfPieces, if_neg (by simpa using hne)]
  | cons next rest => exact ⟨dropCarriageReturn first, linesOfPieces (next :: rest), rfl, .inr rfl⟩

/-! ### Lines that are cut without loss -/

theorem joinLines_cons_cons (line next : List Char) (rest : List (List Char)) :
    joinLines (line :: next :: rest) = line ++ '\n' :: joinLines (next :: rest) := by
  rw [joinLines, List.intercalate_cons_cons, List.append_assoc]
  rfl

/-- No line but the last ends with a carriage return, and the last is not empty. -/
def EndsPlainly : List (List Char) → Prop
  | [] => True
  | [last] => last ≠ []
  | line :: rest => line.getLast? ≠ some '\r' ∧ EndsPlainly rest

theorem EndsPlainly.cons {line : List Char} {rest : List (List Char)} (hne : rest ≠ [])
    (hline : line.getLast? ≠ some '\r') (hrest : EndsPlainly rest) : EndsPlainly (line :: rest) := by
  cases rest with
  | nil => exact absurd rfl hne
  | cons next rest => exact ⟨hline, hrest⟩

/-- Lines that are not empty and end with no carriage return may stand in front. -/
theorem EndsPlainly.append {front back : List (List Char)}
    (hfront : ∀ line ∈ front, line ≠ [] ∧ line.getLast? ≠ some '\r') (hback : EndsPlainly back) :
    EndsPlainly (front ++ back) := by
  induction front with
  | nil => exact hback
  | cons line front ih =>
      obtain ⟨⟨hne, hline⟩, hfront⟩ := List.forall_mem_cons.mp hfront
      rw [List.cons_append]
      by_cases hrest : front ++ back = []
      · rw [hrest]
        exact hne
      · exact .cons hrest hline (ih hfront)

/-- The lines of a text that does not end with a line feed and has no carriage return in front of
one. -/
theorem endsPlainly_of_joinLines {ls : List (List Char)} (hne : joinLines ls ≠ [])
    (hlast : (joinLines ls).getLast? ≠ some '\n') (hpair : ¬['\r', '\n'] <:+: joinLines ls) :
    EndsPlainly ls := by
  induction ls with
  | nil => trivial
  | cons line rest ih =>
      cases rest with
      | nil => simpa [joinLines, EndsPlainly] using hne
      | cons next rest =>
          rw [joinLines_cons_cons] at hlast hpair
          constructor
          · intro hreturn
            apply hpair
            obtain ⟨front, rfl⟩ := List.getLast?_eq_some_iff.mp hreturn
            exact ⟨front, joinLines (next :: rest), by simp⟩
          · have hmore : joinLines (next :: rest) ≠ [] := by
              intro hnil
              rw [hnil] at hlast
              exact hlast (List.getLast?_concat ..)
            apply ih hmore
            · intro hend
              apply hlast
              rw [List.getLast?_append, List.getLast?_cons, hend]
              rfl
            · intro hinfix
              apply hpair
              exact hinfix.trans ⟨line ++ ['\n'], [], by simp⟩

theorem linesOfPieces_eq_self {ls : List (List Char)} (h : EndsPlainly ls) :
    linesOfPieces ls = ls := by
  induction ls with
  | nil => rfl
  | cons line rest ih =>
      cases rest with
      | nil => rw [linesOfPieces, if_neg (by simpa [EndsPlainly] using h)]
      | cons next rest =>
          obtain ⟨hline, hrest⟩ := h
          rw [linesOfPieces, dropCarriageReturn, if_neg hline, ih hrest]
          exact List.cons_ne_nil next rest

theorem joinLines_splitOn (s : List Char) : joinLines (s.splitOn '\n') = s :=
  List.intercalate_splitOn '\n'

/-- Joining does not see whether the last text is already cut into lines. -/
theorem joinLines_append_splitOn (front : List (List Char)) (s : List Char) :
    joinLines (front ++ s.splitOn '\n') = joinLines (front ++ [s]) := by
  induction front with
  | nil => rw [List.nil_append, joinLines_splitOn, joinLines, List.nil_append,
      List.intercalate_singleton]
  | cons line front ih =>
      obtain ⟨next, rest, hrest⟩ := List.exists_cons_of_ne_nil
        (List.append_ne_nil_of_right_ne_nil front (List.splitOn_ne_nil '\n' s))
      obtain ⟨next', rest', hrest'⟩ := List.exists_cons_of_ne_nil
        (List.append_ne_nil_of_right_ne_nil front (List.cons_ne_nil s []))
      rw [hrest, hrest'] at ih
      rw [List.cons_append, List.cons_append, hrest, hrest', joinLines_cons_cons,
        joinLines_cons_cons, ih]

/-! ### Carriage returns in front of line feeds -/

/-- The text with a carriage return in front of every line feed. -/
def withCarriageReturns (s : List Char) : List Char :=
  s.flatMap (fun c => if c = '\n' then ['\r', '\n'] else [c])

/-- The same, line by line: a carriage return at the end of every line but the last. -/
def returned : List (List Char) → List (List Char)
  | [] => []
  | [last] => [last]
  | line :: rest => (line ++ ['\r']) :: returned rest

theorem returned_ne_nil {ls : List (List Char)} (hne : ls ≠ []) : returned ls ≠ [] := by
  fun_cases returned ls with
  | case1 => exact absurd rfl hne
  | case2 last => exact List.cons_ne_nil last []
  | case3 line rest _ => exact List.cons_ne_nil _ _

theorem withCarriageReturns_of_notMem {s : List Char} (h : '\n' ∉ s) :
    withCarriageReturns s = s := by
  induction s with
  | nil => rfl
  | cons c s ih =>
      rw [List.mem_cons, not_or] at h
      rw [withCarriageReturns, List.flatMap_cons, if_neg (Ne.symm h.1)]
      exact congrArg (c :: ·) (ih h.2)

theorem withCarriageReturns_joinLines {ls : List (List Char)} (h : ∀ line ∈ ls, '\n' ∉ line) :
    withCarriageReturns (joinLines ls) = joinLines (returned ls) := by
  induction ls with
  | nil => rfl
  | cons line rest ih =>
      obtain ⟨hline, hrest⟩ := List.forall_mem_cons.mp h
      have hkept := withCarriageReturns_of_notMem hline
      cases rest with
      | nil =>
          rw [returned, joinLines, List.intercalate_singleton]
          exact hkept
      | cons next rest =>
          obtain ⟨next', rest', hreturned⟩ :=
            List.exists_cons_of_ne_nil (returned_ne_nil (List.cons_ne_nil next rest))
          have hmore := ih hrest
          rw [hreturned] at hmore
          rw [returned, hreturned, joinLines_cons_cons, joinLines_cons_cons, ← hmore]
          · simp only [withCarriageReturns, List.flatMap_append, List.flatMap_cons] at hkept ⊢
            rw [hkept]
            simp
          · exact List.cons_ne_nil next rest

/-- A carriage return in front of a line feed belongs to the line end. -/
theorem linesOfPieces_returned {ls : List (List Char)} (h : EndsPlainly ls) :
    linesOfPieces (returned ls) = ls := by
  induction ls with
  | nil => rfl
  | cons line rest ih =>
      cases rest with
      | nil => exact linesOfPieces_eq_self h
      | cons next rest =>
          have hne := returned_ne_nil (List.cons_ne_nil next rest)
          have hdrop : dropCarriageReturn (line ++ ['\r']) = line := by
            rw [dropCarriageReturn, if_pos (List.getLast?_concat ..), List.dropLast_concat]
          rw [returned, linesOfPieces, hdrop, ih h.2]
          · exact hne
          · exact List.cons_ne_nil next rest

theorem notMem_returned {ls : List (List Char)} (h : ∀ line ∈ ls, '\n' ∉ line) :
    ∀ line ∈ returned ls, '\n' ∉ line := by
  fun_induction returned ls with
  | case1 => exact h
  | case2 last => exact h
  | case3 line rest _ ih =>
      obtain ⟨hline, hrest⟩ := List.forall_mem_cons.mp h
      exact List.forall_mem_cons.mpr ⟨by simp [hline], ih hrest⟩

/-- Lines that are joined with either line end are cut into the same lines. -/
theorem lines_joinLines_of_endsPlainly {ls : List (List Char)} (hne : ls ≠ [])
    (h : ∀ line ∈ ls, '\n' ∉ line) (hplain : EndsPlainly ls) :
    lines (joinLines ls) = ls ∧ lines (withCarriageReturns (joinLines ls)) = ls := by
  constructor
  · rw [lines_joinLines hne h, linesOfPieces_eq_self hplain]
  · rw [withCarriageReturns_joinLines h, lines_joinLines (returned_ne_nil hne) (notMem_returned h),
      linesOfPieces_returned hplain]

end HttpScript.Text
