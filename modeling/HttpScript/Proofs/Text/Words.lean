/-
Module: HttpScript.Proofs.Text.Words
Purpose: The words of a text.  A blank ends a word and belongs to none, so blanks at the ends of a
  text add no word, and words written with a space between them are read back.
Main exports: words_append_cons, words_concat_blank, words_of_forall_not_blank, words_trim,
  exists_first_word, words_first, eq_of_words_eq_singleton, words_intercalate, isTrimmed_intercalate
-/
import HttpScript.Proofs.Text.Trim

namespace HttpScript.Text

/-- The words of two texts with a blank between them. -/
theorem words_append_cons {c : Char} (h : isBlank c = true) (s t : List Char) :
    words (s ++ c :: t) = words s ++ words t := by
  rw [words, List.splitOnP_append_cons s t h, List.filter_append]
  rfl

@[simp] theorem words_nil : words [] = [] := by
  simp [words]

theorem words_concat_blank {c : Char} (h : isBlank c = true) (s : List Char) :
    words (s ++ [c]) = words s := by
  rw [words_append_cons h, words_nil, List.append_nil]

theorem words_of_forall_not_blank {word : List Char} (hne : word ≠ [])
    (h : ∀ c ∈ word, isBlank c = false) : words word = [word] := by
  rw [words, List.splitOnP_eq_singleton h]
  simp [hne]

theorem words_append_of_allBlank {before : List Char} (h : AllBlank before) (s : List Char) :
    words (before ++ s) = words s := by
  induction before with
  | nil => rfl
  | cons c before ih =>
      obtain ⟨hc, hbefore⟩ := List.forall_mem_cons.mp h
      have hfirst := words_append_cons hc [] (before ++ s)
      rwa [words_nil, List.nil_append, List.nil_append, ih hbefore] at hfirst

theorem words_append_allBlank {after : List Char} (h : AllBlank after) (s : List Char) :
    words (s ++ after) = words s := by
  cases after with
  | nil => rw [List.append_nil]
  | cons c after =>
      obtain ⟨hc, hafter⟩ := List.forall_mem_cons.mp h
      have hnone := words_append_of_allBlank hafter []
      rw [List.append_nil, words_nil] at hnone
      rw [words_append_cons hc, hnone, List.append_nil]

/-- Blanks around a text are part of no word. -/
theorem words_trim (s : List Char) : words (trim s) = words s := by
  obtain ⟨before, after, hs, hbefore, hafter⟩ := exists_eq_append_trim s
  nth_rewrite 2 [hs]
  rw [words_append_of_allBlank hbefore, words_append_allBlank hafter]

/-- A text without blanks around it begins with a word, and blanks follow the word exactly if there
is something behind them. -/
theorem exists_first_word {s : List Char} (h : IsTrimmed s) (hne : s ≠ []) :
    ∃ word blanks rest, s = word ++ (blanks ++ rest) ∧ word ≠ [] ∧ (∀ c ∈ word, isBlank c = false) ∧
      AllBlank blanks ∧ IsTrimmed rest ∧ (blanks = [] ↔ rest = []) := by
  have hsplit := List.takeWhile_append_dropWhile (p := fun c => !isBlank c) (l := s)
  have hword : ∀ c ∈ s.takeWhile (fun c => !isBlank c), isBlank c = false := by
    intro c hc
    simpa using List.mem_takeWhile_imp hc
  have hstop : ∀ c ∈ (s.dropWhile (fun c => !isBlank c)).head?, isBlank c = true := by
    intro c hc
    simpa using head?_dropWhile_eq_false c hc
  generalize s.takeWhile (fun c => !isBlank c) = word at hsplit hword
  generalize s.dropWhile (fun c => !isBlank c) = behind at hsplit hstop
  have hbehind := List.takeWhile_append_dropWhile (p := isBlank) (l := behind)
  have hblanks := allBlank_takeWhile behind
  have hhead : ∀ c ∈ (behind.dropWhile isBlank).head?, isBlank c = false := head?_dropWhile_eq_false
  generalize behind.takeWhile isBlank = blanks at hbehind hblanks
  generalize behind.dropWhile isBlank = rest at hbehind hhead
  subst hbehind hsplit
  have hiff : blanks = [] ↔ rest = [] := by
    constructor
    · rintro rfl
      cases rest with
      | nil => rfl
      | cons c rest => exact absurd (hstop c rfl) (by simp [hhead c rfl])
    · rintro rfl
      by_contra hblanksNe
      have hlast := h.last (blanks.getLast hblanksNe)
      rw [List.append_nil, List.getLast?_append_of_ne_nil _ hblanksNe,
        hblanks _ (List.getLast_mem hblanksNe)] at hlast
      exact absurd (hlast (List.getLast?_eq_some_getLast hblanksNe)) (by decide)
  have hwordNe : word ≠ [] := by
    rintro rfl
    cases blanks with
    | nil => exact hne (by rw [hiff.mp rfl]; rfl)
    | cons c blanks => exact absurd (hblanks c List.mem_cons_self) (by simp [h.head c rfl])
  refine ⟨word, blanks, rest, rfl, hwordNe, hword, hblanks, ⟨hhead, ?_⟩, hiff⟩
  intro c hc
  have hrestNe : rest ≠ [] := by
    rintro rfl
    cases hc
  apply h.last
  rwa [← List.append_assoc, List.getLast?_append_of_ne_nil _ hrestNe]

/-- The words of a text that begins with a word and blanks. -/
theorem words_first {word blanks rest : List Char} (hne : word ≠ [])
    (hword : ∀ c ∈ word, isBlank c = false) (hblanks : AllBlank blanks)
    (hiff : blanks = [] ↔ rest = []) : words (word ++ (blanks ++ rest)) = word :: words rest := by
  cases blanks with
  | nil =>
      rw [hiff.mp rfl, List.append_nil, List.append_nil, words_of_forall_not_blank hne hword, words_nil]
  | cons c blanks =>
      obtain ⟨hc, hmore⟩ := List.forall_mem_cons.mp hblanks
      rw [List.cons_append, words_append_cons hc, words_append_of_allBlank hmore,
        words_of_forall_not_blank hne hword]
      rfl

theorem words_ne_nil {s : List Char} (h : IsTrimmed s) (hne : s ≠ []) : words s ≠ [] := by
  obtain ⟨word, blanks, rest, rfl, hwordNe, hword, hblanks, -, hiff⟩ := exists_first_word h hne
  rw [words_first hwordNe hword hblanks hiff]
  exact List.cons_ne_nil _ _

/-- A text without blanks around it that has one word is that word. -/
theorem eq_of_words_eq_singleton {s word : List Char} (h : IsTrimmed s) (hwords : words s = [word]) :
    s = word := by
  have hne : s ≠ [] := by
    rintro rfl
    simp at hwords
  obtain ⟨first, blanks, rest, rfl, hfirstNe, hfirst, hblanks, hrest, hiff⟩ := exists_first_word h hne
  rw [words_first hfirstNe hfirst hblanks hiff] at hwords
  obtain ⟨rfl, hmore⟩ := List.cons.inj hwords
  have hnone : rest = [] := by
    by_contra hrestNe
    exact words_ne_nil hrest hrestNe hmore
  rw [hiff.mpr hnone, hnone, List.append_nil, List.append_nil]

/-- Words with a space between them are read back. -/
theorem words_intercalate {ws : List (List Char)}
    (h : ∀ word ∈ ws, word ≠ [] ∧ ∀ c ∈ word, isBlank c = false) :
    words ([' '].intercalate ws) = ws := by
  induction ws with
  | nil => simp
  | cons word ws ih =>
      obtain ⟨⟨hne, hword⟩, hws⟩ := List.forall_mem_cons.mp h
      cases ws with
      | nil => rw [List.intercalate_singleton, words_of_forall_not_blank hne hword]
      | cons next ws =>
          rw [List.intercalate_cons_cons, List.append_assoc, List.singleton_append,
            words_append_cons (by decide), words_of_forall_not_blank hne hword, ih hws]
          rfl

/-- Words with a space between them have no blanks around them. -/
theorem isTrimmed_intercalate {ws : List (List Char)}
    (h : ∀ word ∈ ws, word ≠ [] ∧ ∀ c ∈ word, isBlank c = false) :
    IsTrimmed ([' '].intercalate ws) := by
  induction ws with
  | nil => exact isTrimmed_of_forall_not_blank (List.forall_mem_nil _)
  | cons word ws ih =>
      obtain ⟨⟨hne, hword⟩, hws⟩ := List.forall_mem_cons.mp h
      have htrimmed := isTrimmed_of_forall_not_blank hword
      cases ws with
      | nil => rwa [List.intercalate_singleton]
      | cons next ws =>
          have hnext : [' '].intercalate (next :: ws) ≠ [] := by
            intro hnil
            have hwords := words_intercalate hws
            rw [hnil, words_nil] at hwords
            cases hwords
          rw [List.intercalate_cons_cons, List.append_assoc]
          apply isTrimmed_append hne (by simp) htrimmed.head
          rw [List.getLast?_append_of_ne_nil _ hnext]
          exact (ih hws).last

theorem notMem_intercalate {c : Char} (hc : c ≠ ' ') {ws : List (List Char)}
    (h : ∀ word ∈ ws, c ∉ word) : c ∉ [' '].intercalate ws := by
  induction ws with
  | nil => simp
  | cons word ws ih =>
      obtain ⟨hword, hws⟩ := List.forall_mem_cons.mp h
      cases ws with
      | nil => rwa [List.intercalate_singleton]
      | cons next ws =>
          rw [List.intercalate_cons_cons, List.mem_append, List.mem_append, List.mem_singleton]
          simp [hword, hc, ih hws]

end HttpScript.Text
