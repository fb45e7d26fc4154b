/-
Module: HttpScript.Proofs.Script.Numbering
Purpose: The numbers of lines.  They increase, and a number tells which line of the text it is.
Main exports: Increasing, increasing_numberedLines, numbered, mem_numberedLines_iff, within,
  map_snd_within_numberedLines
-/
import HttpScript.Script.Line
import Mathlib.Data.List.Nodup

namespace HttpScript.Script

open Text

/-- Line numbers grow from line to line. -/
def Increasing (lines : List NumberedLine) : Prop :=
  lines.Pairwise (fun l l' => l.1 < l'.1)

/-- The lines from number `first` to number `last`. -/
def within (first last : Nat) (lines : List NumberedLine) : List NumberedLine :=
  lines.filter (fun l => first ≤ l.1 && l.1 ≤ last)

variable {lines before after : List NumberedLine} {line : NumberedLine} {first last : Nat}

@[simp] theorem mem_within : line ∈ within first last lines ↔
    line ∈ lines ∧ first ≤ line.1 ∧ line.1 ≤ last := by
  simp [within]

theorem increasing_numberedLines (first : Nat) (text : List Char) :
    Increasing (numberedLines first text) := by
  have hnumbers : (((Text.lines text).zipIdx first).map (·.2)).Pairwise (· < ·) := by
    rw [List.zipIdx_map_snd]
    exact List.pairwise_lt_range'
  exact List.pairwise_map.mpr (List.pairwise_map.mp hnumbers)

/-- Lines with their numbers from `first` on. -/
def numbered (first : Nat) (ls : List (List Char)) : List NumberedLine :=
  (ls.zipIdx first).map Prod.swap

theorem numberedLines_eq (first : Nat) (text : List Char) :
    numberedLines first text = numbered first (Text.lines text) := rfl

theorem numbered_cons (first : Nat) (line : List Char) (ls : List (List Char)) :
    numbered first (line :: ls) = (first, line) :: numbered (first + 1) ls := rfl

theorem numbered_append (first : Nat) (ls ls' : List (List Char)) :
    numbered first (ls ++ ls') = numbered first ls ++ numbered (first + ls.length) ls' := by
  rw [numbered, List.zipIdx_append, List.map_append]
  rfl

theorem map_snd_numbered (first : Nat) (ls : List (List Char)) :
    (numbered first ls).map (·.2) = ls := by
  rw [numbered, List.map_map]
  exact List.zipIdx_map_fst first ls

theorem map_snd_numberedLines (first : Nat) (text : List Char) :
    (numberedLines first text).map (·.2) = Text.lines text :=
  map_snd_numbered first (Text.lines text)

theorem mem_numberedLines_iff {text : List Char} :
    line ∈ numberedLines 0 text ↔ (Text.lines text)[line.1]? = some line.2 := by
  rw [numberedLines, List.mem_map]
  constructor
  · rintro ⟨l, hl, rfl⟩
    simpa using List.mem_zipIdx_iff_getElem?.mp hl
  · intro h
    exact ⟨line.swap, List.mem_zipIdx_iff_getElem?.mpr (by simpa using h), Prod.swap_swap line⟩

/-- A number belongs to one line. -/
theorem Increasing.eq_of_number_eq (hlines : Increasing lines) {l l' : NumberedLine}
    (hl : l ∈ lines) (hl' : l' ∈ lines) (h : l.1 = l'.1) : l = l' := by
  have hnodup : (lines.map (·.1)).Nodup := by
    apply List.pairwise_map.mpr
    apply hlines.imp
    intro m m' hlt
    exact Nat.ne_of_lt hlt
  exact List.inj_on_of_nodup_map hnodup hl hl' h

/-- Lines in front of some lines and lines behind them have other numbers. -/
theorem within_append_of_mem {stretch : List NumberedLine}
    (hlines : Increasing (before ++ (stretch ++ after))) {l l' : NumberedLine} (hl : l ∈ stretch)
    (hl' : l' ∈ stretch) :
    within l.1 l'.1 (before ++ (stretch ++ after)) = within l.1 l'.1 stretch := by
  obtain ⟨-, hrest, hbefore⟩ := List.pairwise_append.mp hlines
  obtain ⟨-, -, hafter⟩ := List.pairwise_append.mp hrest
  have hfront : within l.1 l'.1 before = [] := by
    rw [within, List.filter_eq_nil_iff]
    intro m hm
    have hlt := hbefore m hm l (List.mem_append_left _ hl)
    simp only [Bool.and_eq_true, decide_eq_true_eq]
    omega
  have hback : within l.1 l'.1 after = [] := by
    rw [within, List.filter_eq_nil_iff]
    intro m hm
    have hlt := hafter l' hl' m hm
    simp only [Bool.and_eq_true, decide_eq_true_eq]
    omega
  simp only [within, List.filter_append] at hfront hback ⊢
  rw [hfront, hback, List.nil_append, List.append_nil]

/-- The first line comes first and the last line last. -/
theorem within_head_getLast (hlines : Increasing lines) (hne : lines ≠ []) :
    within (lines.head hne).1 (lines.getLast hne).1 lines = lines := by
  rw [within, List.filter_eq_self]
  intro l hl
  have hfirst : (lines.head hne).1 ≤ l.1 := by
    obtain ⟨a, rest, rfl⟩ := List.exists_cons_of_ne_nil hne
    rcases List.mem_cons.mp hl with rfl | hl
    · exact Nat.le_refl _
    · exact Nat.le_of_lt (List.rel_of_pairwise_cons hlines hl)
  have hlast : l.1 ≤ (lines.getLast hne).1 := by
    obtain ⟨rest, a, rfl⟩ := (List.eq_nil_or_concat' lines).resolve_left hne
    rw [List.getLast_concat]
    rcases List.mem_append.mp hl with hl | hl
    · exact Nat.le_of_lt ((List.pairwise_append.mp hlines).2.2 l hl a (List.mem_singleton_self a))
    · exact Nat.le_of_eq (congrArg Prod.fst (List.mem_singleton.mp hl))
  simp [hfirst, hlast]

/-- Elements with their numbers, cut down to those from `first` to `last`. -/
theorem map_fst_filter_zipIdx {α : Type} (first last : Nat) (l : List α) (k : Nat) :
    ((l.zipIdx k).filter (fun p => first ≤ p.2 && p.2 ≤ last)).map (·.1) =
      (l.drop (first - k)).take (last + 1 - max first k) := by
  induction l generalizing k with
  | nil => simp
  | cons a l ih =>
      rw [List.zipIdx_cons, List.filter_cons]
      by_cases hfirst : first ≤ k
      · have hskip : first - k = 0 ∧ first - (k + 1) = 0 := by omega
        by_cases hlast : k ≤ last
        · have htake : last + 1 - max first k = last + 1 - max first (k + 1) + 1 := by omega
          rw [if_pos (by simp [hfirst, hlast]), List.map_cons, ih, hskip.1, hskip.2, htake]
          rfl
        · have htake : last + 1 - max first k = 0 ∧ last + 1 - max first (k + 1) = 0 := by omega
          rw [if_neg (by simp [hlast]), ih, htake.1, htake.2, List.take_zero, List.take_zero]
      · have hskip : first - k = first - (k + 1) + 1 := by omega
        have htake : max first k = max first (k + 1) := by omega
        rw [if_neg (by simp [hfirst]), ih, hskip, htake, List.drop_succ_cons]

/-- The lines between two numbers are a part of the text. -/
theorem map_snd_within_numberedLines (text : List Char) :
    (within first last (numberedLines 0 text)).map (·.2) =
      (Text.lines text).extract first (last + 1) := by
  have hfilter := map_fst_filter_zipIdx first last (Text.lines text) 0
  rw [Nat.sub_zero, Nat.max_zero] at hfilter
  rw [within, numberedLines, List.filter_map, List.map_map, List.extract_eq_take_drop, ← hfilter]
  rfl

end HttpScript.Script
