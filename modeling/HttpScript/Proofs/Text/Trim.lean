/-
Module: HttpScript.Proofs.Text.Trim
Purpose: What trimming takes away and what it leaves.  Characters are trimmed off texts and blank
  lines off blocks, so the laws are stated for lists of anything.
Main exports: takeWhile_append_of_stop, dropWhile_append_of_stop, dropEnds, exists_eq_append_dropEnds,
  dropEnds_append, AllBlank, IsTrimmed, trim_append, exists_eq_append_trim, not_isBlank_of_isWordChar
-/
import HttpScript.Text.Blank
import HttpScript.Text.WordChar
import Mathlib.Data.List.DropRight

namespace HttpScript.Text

/-! ### Runs -/

section Runs

variable {α : Type} {p : α → Bool} {run rest : List α}

/-- Behind an element that stops it a run does not go on, whatever stands in front. -/
theorem takeWhile_append_stop (l : List α) (hstop : ∀ a ∈ rest.head?, p a = false) :
    (l ++ rest).takeWhile p = l.takeWhile p := by
  induction l with
  | nil =>
      cases rest with
      | nil => rfl
      | cons a rest => simp [hstop a rfl]
  | cons a l ih => simp only [List.cons_append, List.takeWhile_cons, ih]

theorem dropWhile_append_stop (l : List α) (hstop : ∀ a ∈ rest.head?, p a = false) :
    (l ++ rest).dropWhile p = l.dropWhile p ++ rest := by
  induction l with
  | nil =>
      cases rest with
      | nil => rfl
      | cons a rest => simp [hstop a rfl]
  | cons a l ih =>
      simp only [List.cons_append, List.dropWhile_cons, ih]
      split
      · rfl
      · rfl

/-- A run ends where the first element stands that does not belong to it. -/
theorem takeWhile_append_of_stop (hrun : ∀ a ∈ run, p a = true)
    (hstop : ∀ a ∈ rest.head?, p a = false) : (run ++ rest).takeWhile p = run := by
  rw [takeWhile_append_stop run hstop, List.takeWhile_eq_self_iff.mpr hrun]

theorem dropWhile_append_of_stop (hrun : ∀ a ∈ run, p a = true)
    (hstop : ∀ a ∈ rest.head?, p a = false) : (run ++ rest).dropWhile p = rest := by
  rw [dropWhile_append_stop run hstop, List.dropWhile_eq_nil_iff.mpr hrun, List.nil_append]

theorem head?_dropWhile_eq_false {l : List α} : ∀ a ∈ (l.dropWhile p).head?, p a = false := by
  intro a ha
  have h := List.head?_dropWhile_not p l
  rw [Option.mem_def.mp ha] at h
  simpa using h

theorem getLast?_rdropWhile_eq_false {l : List α} :
    ∀ a ∈ (l.rdropWhile p).getLast?, p a = false := by
  intro a ha
  obtain ⟨hne, rfl⟩ := List.mem_getLast?_eq_getLast ha
  exact Bool.eq_false_iff.mpr (List.rdropWhile_last_not p l hne)

end Runs

/-! ### Both ends -/

section Ends

variable {α : Type} {p : α → Bool} {before inside after : List α}

/-- A list without the elements at its two ends for which `p` holds. -/
def dropEnds (p : α → Bool) (l : List α) : List α :=
  (l.dropWhile p).rdropWhile p

/-- What is dropped in front, what stays and what is dropped behind. -/
theorem takeWhile_append_dropEnds (p : α → Bool) (l : List α) :
    l.takeWhile p ++ (dropEnds p l ++ (l.dropWhile p).rtakeWhile p) = l := by
  rw [dropEnds, List.rdropWhile_append_rtakeWhile, List.takeWhile_append_dropWhile]

/-- Only elements for which `p` holds are dropped. -/
theorem exists_eq_append_dropEnds (p : α → Bool) (l : List α) :
    ∃ before after, l = before ++ (dropEnds p l ++ after) ∧
      (∀ a ∈ before, p a = true) ∧ ∀ a ∈ after, p a = true :=
  ⟨l.takeWhile p, (l.dropWhile p).rtakeWhile p, (takeWhile_append_dropEnds p l).symm,
    fun _ ha => List.mem_takeWhile_imp ha, fun _ ha => List.mem_rtakeWhile_imp ha⟩

theorem getLast?_dropEnds_eq_false {l : List α} : ∀ a ∈ (dropEnds p l).getLast?, p a = false :=
  getLast?_rdropWhile_eq_false

theorem head?_dropEnds_eq_false {l : List α} : ∀ a ∈ (dropEnds p l).head?, p a = false := by
  intro a ha
  obtain ⟨rest, hrest⟩ : dropEnds p l <+: l.dropWhile p := List.rdropWhile_prefix p _
  apply head?_dropWhile_eq_false (l := l)
  rw [← hrest, List.head?_append, Option.mem_def.mp ha]
  rfl

/-- A part is what is left if all around it goes and nothing at its own ends does. -/
theorem dropEnds_append (hbefore : ∀ a ∈ before, p a = true) (hafter : ∀ a ∈ after, p a = true)
    (hhead : ∀ a ∈ inside.head?, p a = false) (hlast : ∀ a ∈ inside.getLast?, p a = false) :
    dropEnds p (before ++ (inside ++ after)) = inside := by
  rw [dropEnds, List.dropWhile_append_of_pos hbefore]
  cases inside with
  | nil =>
      rw [List.nil_append, List.dropWhile_eq_nil_iff.mpr hafter]
      rfl
  | cons a inside =>
      have hkept : (a :: inside ++ after).dropWhile p = a :: inside ++ after := by
        simp [hhead a rfl]
      have hstop : ∀ b ∈ (a :: inside).reverse.head?, p b = false := by
        rw [List.head?_reverse]
        exact hlast
      rw [hkept, List.rdropWhile, List.reverse_append,
        dropWhile_append_of_stop (by simpa using hafter) hstop, List.reverse_reverse]

end Ends

/-! ### Blanks -/

/-- Only blanks. -/
def AllBlank (s : List Char) : Prop :=
  ∀ c ∈ s, isBlank c = true

theorem allBlank_takeWhile (s : List Char) : AllBlank (s.takeWhile isBlank) :=
  fun _ hc => List.mem_takeWhile_imp hc

theorem allBlank_rtakeWhile (s : List Char) : AllBlank (s.rtakeWhile isBlank) :=
  fun _ hc => List.mem_rtakeWhile_imp hc

theorem allBlank_append {s t : List Char} : AllBlank (s ++ t) ↔ AllBlank s ∧ AllBlank t :=
  List.forall_mem_append

/-- No blanks at either end. -/
structure IsTrimmed (s : List Char) : Prop where
  head : ∀ c ∈ s.head?, isBlank c = false
  last : ∀ c ∈ s.getLast?, isBlank c = false

variable {s before after : List Char}

theorem trim_eq_dropEnds (s : List Char) : trim s = dropEnds isBlank s := rfl

theorem isTrimmed_trim (s : List Char) : IsTrimmed (trim s) := by
  rw [trim_eq_dropEnds]
  exact ⟨head?_dropEnds_eq_false, getLast?_dropEnds_eq_false⟩

theorem takeWhile_append_trim (s : List Char) :
    s.takeWhile isBlank ++ (trim s ++ (s.dropWhile isBlank).rtakeWhile isBlank) = s := by
  rw [trim_eq_dropEnds]
  apply takeWhile_append_dropEnds

theorem exists_eq_append_trim (s : List Char) :
    ∃ before after, s = before ++ (trim s ++ after) ∧ AllBlank before ∧ AllBlank after := by
  rw [trim_eq_dropEnds]
  apply exists_eq_append_dropEnds

theorem trim_append (hbefore : AllBlank before) (hs : IsTrimmed s) (hafter : AllBlank after) :
    trim (before ++ (s ++ after)) = s := by
  rw [trim_eq_dropEnds]
  exact dropEnds_append hbefore hafter hs.head hs.last

theorem trim_of_isTrimmed (hs : IsTrimmed s) : trim s = s := by
  have htrim : trim ([] ++ (s ++ [])) = s :=
    trim_append (fun _ hc => nomatch hc) hs (fun _ hc => nomatch hc)
  rwa [List.nil_append, List.append_nil] at htrim

theorem isTrimmed_iff : IsTrimmed s ↔ trim s = s :=
  ⟨trim_of_isTrimmed, fun h => h ▸ isTrimmed_trim s⟩

instance (s : List Char) : Decidable (IsTrimmed s) :=
  decidable_of_iff _ isTrimmed_iff.symm

theorem IsTrimmed.getLast?_ne (hs : IsTrimmed s) {c : Char} (hc : isBlank c = true) :
    s.getLast? ≠ some c := by
  intro hlast
  exact Bool.false_ne_true ((hs.last c hlast).symm.trans hc)

theorem not_isBlank_of_any_eq_false (h : s.any isBlank = false) : ∀ c ∈ s, isBlank c = false := by
  simpa using h

theorem isTrimmed_of_forall_not_blank (h : ∀ c ∈ s, isBlank c = false) : IsTrimmed s :=
  ⟨fun c hc => h c (List.mem_of_mem_head? hc), fun c hc => h c (List.mem_of_mem_getLast? hc)⟩

/-- A text with no blank in front is trimmed if the one behind it has no blank at its end. -/
theorem isTrimmed_append {t : List Char} (hs : s ≠ []) (ht : t ≠ [])
    (hhead : ∀ c ∈ s.head?, isBlank c = false) (hlast : ∀ c ∈ t.getLast?, isBlank c = false) :
    IsTrimmed (s ++ t) := by
  constructor
  · rwa [List.head?_append_of_ne_nil _ hs]
  · rwa [List.getLast?_append_of_ne_nil _ ht]

theorem trimRight_append (hs : IsTrimmed s) (hne : s ≠ []) (hafter : AllBlank after) :
    trimRight (s ++ after) = s := by
  have hkept : trimLeft (s ++ after) = s ++ after := by
    obtain ⟨c, rest, rfl⟩ := List.exists_cons_of_ne_nil hne
    simp [trimLeft, hs.head c rfl]
  have htrim : trim ([] ++ (s ++ after)) = s := trim_append (fun _ hc => nomatch hc) hs hafter
  rwa [List.nil_append, trim, hkept] at htrim

theorem allBlank_of_trim_eq_nil (h : trim s = []) : AllBlank s := by
  obtain ⟨before, after, hs, hbefore, hafter⟩ := exists_eq_append_trim s
  rw [h] at hs
  intro c hc
  rw [hs] at hc
  rcases List.mem_append.mp hc with hc | hc
  · exact hbefore c hc
  · exact hafter c hc

theorem isBlankLine_iff : isBlankLine s = true ↔ AllBlank s :=
  List.all_eq_true

instance (s : List Char) : Decidable (AllBlank s) :=
  decidable_of_iff _ isBlankLine_iff

theorem isBlankLine_eq_false (hne : s ≠ []) (hhead : ∀ c ∈ s.head?, isBlank c = false) :
    isBlankLine s = false := by
  obtain ⟨c, rest, rfl⟩ := List.exists_cons_of_ne_nil hne
  rw [isBlankLine, List.all_cons, hhead c rfl, Bool.false_and]

/-- The code points of the blanks, one by one. -/
def blankPoints : List Nat :=
  [0x09, 0x0A, 0x0B, 0x0C, 0x0D, 0x20, 0x85, 0xA0, 0x1680, 0x2000, 0x2001, 0x2002, 0x2003, 0x2004,
    0x2005, 0x2006, 0x2007, 0x2008, 0x2009, 0x200A, 0x2028, 0x2029, 0x202F, 0x205F, 0x3000]

theorem mem_blankPoints {c : Char} (h : isBlank c = true) : c.toNat ∈ blankPoints := by
  simp only [isBlank, Bool.or_eq_true, Bool.and_eq_true, decide_eq_true_eq, beq_iff_eq] at h
  simp only [blankPoints, List.mem_cons, List.not_mem_nil, or_false]
  omega

theorem not_isBlank_of_inRanges {ranges : List (Nat × Nat)} {c : Char}
    (hnone : ∀ n ∈ blankPoints, inRanges ranges n = false) (h : inRanges ranges c.toNat = true) :
    isBlank c = false := by
  by_contra hblank
  have houtside := hnone _ (mem_blankPoints (by simpa using hblank))
  exact Bool.false_ne_true (houtside.symm.trans h)

/-- No blank is part of a word. -/
theorem not_isBlank_of_isWordChar {c : Char} (h : isWordChar c = true) : isBlank c = false := by
  apply not_isBlank_of_inRanges ?_ h
  decide +kernel

theorem not_isBlank_of_isDigitChar {c : Char} (h : isDigitChar c = true) : isBlank c = false := by
  apply not_isBlank_of_inRanges ?_ h
  decide

theorem not_isBlank_of_accepts {accepts : Char → Bool} {c : Char}
    (hnone : ∀ n ∈ blankPoints, accepts (Char.ofNat n) = false) (h : accepts c = true) :
    isBlank c = false := by
  by_contra hblank
  have hpoint := hnone _ (mem_blankPoints (by simpa using hblank))
  rw [Char.ofNat_toNat] at hpoint
  exact Bool.false_ne_true (hpoint.symm.trans h)

theorem not_isBlank_of_isAlpha {c : Char} (h : c.isAlpha = true) : isBlank c = false :=
  not_isBlank_of_accepts (by decide) h

theorem not_isBlank_of_isDigit {c : Char} (h : c.isDigit = true) : isBlank c = false :=
  not_isBlank_of_accepts (by decide) h

theorem isTrimmed_of_forall_isWordChar (h : ∀ c ∈ s, isWordChar c = true) : IsTrimmed s :=
  isTrimmed_of_forall_not_blank (fun c hc => not_isBlank_of_isWordChar (h c hc))

end HttpScript.Text
