/-
Module: HttpScript.Proofs.Variable.Occurrence
Purpose: Where the references of a text stand.  They are found in reading order and do not overlap,
  so the range of a name tells which reference it belongs to.
Main exports: pairwise_occurrences, start_before_stop, pairwise_start_occurrences,
  nodup_ranges_occurrences
-/
import HttpScript.Variable.Reference
import Mathlib.Data.List.Pairwise

namespace HttpScript.Variable

/-! ### On one line -/

/-- A name stands behind the opening braces and is not empty. -/
theorem range_of_mem_referencesFrom {line column : Nat} {s : List Char} {r : Reference}
    (h : r ∈ referencesFrom line column s) :
    ∃ first last, column < first ∧ first < last ∧ r.range = .onLine line first last := by
  fun_induction referencesFrom line column s with
  | case1 => cases h
  | case2 column c rest t htoken start ih =>
      rcases List.mem_cons.mp h with rfl | h
      · refine ⟨start, start + Text.units t.name, ?_, ?_, rfl⟩
        · exact Nat.lt_add_of_pos_right (Text.units_pos (List.cons_ne_nil _ _))
        · exact Nat.lt_add_of_pos_right (Text.units_pos (token?_name_ne_nil htoken))
      · obtain ⟨first, last, hfirst, hlast, hrange⟩ := ih h
        exact ⟨first, last, by omega, hlast, hrange⟩
  | case3 column c rest hnone ih =>
      obtain ⟨first, last, hfirst, hlast, hrange⟩ := ih h
      exact ⟨first, last, by omega, hlast, hrange⟩

/-- The name of a reference ends before the name of the next one begins. -/
theorem pairwise_referencesFrom (line column : Nat) (s : List Char) :
    (referencesFrom line column s).Pairwise (fun r r' => r.range.stop.Before r'.range.start) := by
  fun_induction referencesFrom line column s with
  | case1 => exact .nil
  | case2 column c rest t htoken start ih =>
      apply List.Pairwise.cons
      · intro r hr
        obtain ⟨first, last, hfirst, -, hrange⟩ := range_of_mem_referencesFrom hr
        rw [hrange]
        -- What is left begins behind the closing braces of this reference.
        have htext : Text.units t.text = Text.units Token.opening + Text.units t.name +
            Text.units t.path + Text.units Token.closing := by
          rw [Token.text, Text.units_append, Text.units_append, Text.units_append]
        exact .inr ⟨rfl, by simp only [Range.onLine]; omega⟩
      · exact ih
  | case3 column c rest hnone ih => exact ih

/-! ### In a text -/

variable {text : String} {r : Reference}

/-- References are found in reading order, and apart from each other. -/
theorem pairwise_occurrences (text : String) :
    (occurrences text).Pairwise (fun r r' => r.range.stop.Before r'.range.start) := by
  unfold occurrences
  rw [List.pairwise_flatMap]
  constructor
  · intro l _
    exact pairwise_referencesFrom l.2 0 l.1
  · have hlines : ((Text.pieces text.toList).zipIdx.map (·.2)).Pairwise (· < ·) := by
      rw [List.zipIdx_map_snd]
      exact List.pairwise_lt_range'
    apply (List.pairwise_map.mp hlines).imp
    intro l l' hlt r hr r' hr'
    obtain ⟨first, last, -, -, hrange⟩ := range_of_mem_referencesFrom hr
    obtain ⟨first', last', -, -, hrange'⟩ := range_of_mem_referencesFrom hr'
    rw [hrange, hrange']
    exact .inl hlt

theorem start_before_stop (h : r ∈ occurrences text) : r.range.start.Before r.range.stop := by
  obtain ⟨l, -, hr⟩ := List.mem_flatMap.mp h
  obtain ⟨first, last, -, hlast, hrange⟩ := range_of_mem_referencesFrom hr
  rw [hrange]
  exact .inr ⟨rfl, hlast⟩

theorem pairwise_start_occurrences (text : String) :
    (occurrences text).Pairwise (fun r r' => r.range.start.Before r'.range.start) := by
  apply List.Pairwise.imp_of_mem ?_ (pairwise_occurrences text)
  intro r r' hr _ hbefore
  exact (start_before_stop hr).trans hbefore

theorem nodup_ranges_occurrences (text : String) :
    ((occurrences text).map (·.range)).Nodup := by
  apply List.pairwise_map.mpr
  apply (pairwise_start_occurrences text).imp
  intro r r' hbefore heq
  rw [heq] at hbefore
  exact Position.Before.irrefl _ hbefore

end HttpScript.Variable
