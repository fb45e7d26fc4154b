/-
Module: HttpScript.Proofs.Script.Renumbering
Purpose: Directives know their lines by number only.  If the lines of a script get other numbers in
  the same order, its directives get these numbers and stay as they are otherwise.
Main exports: Directive.mapLines, renumber, directives_renumber, afterInsert,
  numberedLines_insertIdx
-/
import HttpScript.Script.Directive
import Mathlib.Order.Monotone.Basic

namespace HttpScript

/-- A range on other lines. -/
def Range.mapLines (f : Nat → Nat) (r : Range) : Range :=
  ⟨⟨f r.start.line, r.start.character⟩, ⟨f r.stop.line, r.stop.character⟩⟩

namespace Script

/-- A directive on other lines. -/
def Directive.mapLines (f : Nat → Nat) : Directive → Directive
  | .inclusion d =>
    .inclusion { d with range := d.range.mapLines f, pathRange := d.pathRange.mapLines f }
  | .variable v => .variable { v with range := v.range.mapLines f }
  | .request b => .request { b with range := b.range.mapLines f }

/-- Lines with other numbers. -/
def renumber (f : Nat → Nat) (lines : List NumberedLine) : List NumberedLine :=
  lines.map (fun l => (f l.1, l.2))

variable {f : Nat → Nat}

theorem renumber_cons (line : NumberedLine) (rest : List NumberedLine) :
    renumber f (line :: rest) = (f line.1, line.2) :: renumber f rest := rfl

theorem map_snd_renumber (lines : List NumberedLine) :
    (renumber f lines).map (·.2) = lines.map (·.2) := by
  rw [renumber, List.map_map]
  rfl

theorem le_mapLines (hf : StrictMono f) (a b : Position) :
    Position.le ⟨f a.line, a.character⟩ ⟨f b.line, b.character⟩ = a.le b := by
  rw [Bool.eq_iff_iff]
  simp only [Position.le, Bool.or_eq_true, Bool.and_eq_true, decide_eq_true_eq, beq_iff_eq,
    hf.lt_iff_lt, hf.injective.eq_iff]

theorem union_mapLines (hf : StrictMono f) (r r' : Range) :
    (r.mapLines f).union (r'.mapLines f) = (r.union r').mapLines f := by
  simp only [Range.union, Range.mapLines, Position.min, Position.max, le_mapLines hf]
  split
  · split
    · rfl
    · rfl
  · split
    · rfl
    · rfl

theorem retained_renumber (block : List NumberedLine) :
    retained (renumber f block) = renumber f (retained block) := by
  simp only [retained, renumber, List.filter_map, List.dropWhile_map, ← List.map_reverse]
  rfl

/-- A name does not depend on where its comment stands. -/
theorem blockName?_renumber (block : List NumberedLine) :
    blockName? (renumber f block) = blockName? block := by
  rw [blockName?, renumber, List.filterMap_map]
  rfl

theorem block?_renumber (hf : StrictMono f) (block : List NumberedLine) :
    block? (renumber f block) =
      (block? block).map (fun b => { b with range := b.range.mapLines f }) := by
  have hhead : (renumber f (retained block)).head? =
      (retained block).head?.map (fun l => (f l.1, l.2)) := List.head?_map
  have hlast : (renumber f (retained block)).getLast? =
      (retained block).getLast?.map (fun l => (f l.1, l.2)) := List.getLast?_map
  simp only [block?, retained_renumber, hhead, hlast, map_snd_renumber, blockName?_renumber]
  cases (retained block).head? with
  | none => rfl
  | some first =>
      cases (retained block).getLast? with
      | none => rfl
      | some last =>
          have hunion := union_mapLines hf (.wholeLine first.1 first.2) (.wholeLine last.1 last.2)
          simp only [Option.map_some]
          rw [← hunion]
          rfl

/-- A line by itself is what it was, with its new number. -/
theorem includeDirective?_renumber (line : NumberedLine) :
    includeDirective? (f line.1, line.2) = (includeDirective? line).map (fun d =>
      { d with range := d.range.mapLines f, pathRange := d.pathRange.mapLines f }) := by
  rw [includeDirective?, includeDirective?, Option.map_map]
  rfl

theorem fileVariable?_renumber (line : NumberedLine) :
    fileVariable? (f line.1, line.2) =
      (fileVariable? line).map (fun v => { v with range := v.range.mapLines f }) := by
  rw [fileVariable?, fileVariable?, Option.map_map]
  rfl

/-- New numbers in the old order change the lines of directives and nothing else. -/
theorem directives_renumber (hf : StrictMono f) (lines : List NumberedLine) :
    directives (renumber f lines) = (directives lines).map (·.mapLines f) := by
  fun_induction directives lines with
  | case1 => rw [renumber, List.map_nil, directives, List.map_nil]
  | case2 line rest hblank ih =>
      rw [renumber_cons, directives, if_pos hblank, ih]
  | case3 line rest hblank d hd ih =>
      rw [renumber_cons, directives, if_neg hblank, includeDirective?_renumber, hd,
        List.map_cons, ← ih]
      rfl
  | case4 line rest hblank hnone v hv ih =>
      rw [renumber_cons, directives, if_neg hblank, includeDirective?_renumber, hnone,
        fileVariable?_renumber, hv, List.map_cons, ← ih]
      rfl
  | case5 line rest hblank hnone hnone' hboundary ih =>
      rw [renumber_cons, directives, if_neg hblank, includeDirective?_renumber, hnone,
        fileVariable?_renumber, hnone', ← ih]
      exact if_pos hboundary
  | case6 line rest hblank hnone hnone' hboundary more after ih =>
      have hmore : (renumber f rest).takeWhile (fun l => !isBoundary l.2) = renumber f more := by
        rw [renumber, List.takeWhile_map]
        rfl
      have hafter : (renumber f rest).dropWhile (fun l => !isBoundary l.2) = renumber f after := by
        rw [renumber, List.dropWhile_map]
        rfl
      have hblock := block?_renumber hf (line :: more)
      rw [renumber_cons] at hblock
      rw [renumber_cons, directives, if_neg hblank, includeDirective?_renumber, hnone,
        fileVariable?_renumber, hnone', List.map_append, ← ih]
      simp only [Option.map_none, hmore, hafter, hblock, hboundary, Bool.false_eq_true, if_false]
      cases block? (line :: more) with
      | none => rfl
      | some b => rfl

/-! ### A line more -/

/-- The number that line `n` has once there is one line more in front of line `i`. -/
def afterInsert (i n : Nat) : Nat :=
  if n < i then n else n + 1

theorem strictMono_afterInsert (i : Nat) : StrictMono (afterInsert i) := by
  intro m n h
  simp only [afterInsert]
  split
  · split
    · omega
    · omega
  · split
    · omega
    · omega

/-- The lines from the inserted one on have the next number each. -/
theorem map_swap_zipIdx_succ (lines : List (List Char)) (first : Nat) :
    (lines.zipIdx (first + 1)).map Prod.swap =
      renumber (afterInsert first) ((lines.zipIdx first).map Prod.swap) := by
  rw [List.zipIdx_succ, renumber, List.map_map, List.map_map]
  apply List.map_congr_left
  intro line hline
  have hfirst : ¬line.2 < first := Nat.not_lt.mpr (List.le_snd_of_mem_zipIdx hline)
  simp [afterInsert, hfirst]

theorem map_swap_zipIdx_insertIdx (lines : List (List Char)) (line : List Char) (first i : Nat)
    (hi : i ≤ lines.length) :
    ((lines.insertIdx i line).zipIdx first).map Prod.swap =
      renumber (afterInsert (first + i)) (((lines.zipIdx first).map Prod.swap).take i) ++
        (first + i, line) ::
          renumber (afterInsert (first + i)) (((lines.zipIdx first).map Prod.swap).drop i) := by
  induction i generalizing lines first with
  | zero =>
      have hsucc := map_swap_zipIdx_succ lines first
      rw [List.insertIdx_zero, List.zipIdx_cons, List.map_cons, hsucc]
      rfl
  | succ i ih =>
      cases lines with
      | nil => cases hi
      | cons a lines =>
          have hrest := ih lines (first + 1) (Nat.le_of_succ_le_succ hi)
          have hkept : afterInsert (first + (i + 1)) first = first := if_pos (by omega)
          rw [Nat.add_right_comm, Nat.add_assoc] at hrest
          rw [List.insertIdx_succ_cons, List.zipIdx_cons, List.zipIdx_cons, List.map_cons,
            List.map_cons, List.take_succ_cons, List.drop_succ_cons, renumber_cons, hrest,
            Prod.fst_swap, hkept]
          rfl

/-- The lines of a text into which a line was put. -/
theorem numberedLines_insertIdx {text text' line : List Char} {i : Nat}
    (hi : i ≤ (Text.lines text).length)
    (hlines : Text.lines text' = (Text.lines text).insertIdx i line) :
    numberedLines 0 text' =
      renumber (afterInsert i) ((numberedLines 0 text).take i) ++
        (i, line) :: renumber (afterInsert i) ((numberedLines 0 text).drop i) := by
  have hinsert := map_swap_zipIdx_insertIdx (Text.lines text) line 0 i hi
  rw [Nat.zero_add] at hinsert
  rw [numberedLines, hlines]
  exact hinsert

end Script

end HttpScript
