/-
Module: HttpScript.Proofs.Script.RequestLinePattern
Purpose: Request lines as matches of the pattern `^([A-Za-z]+)\s+(\S+)(?:\s+(HTTP/\d+(?:\.\d+)?))?$`.
  Nothing that a part may take could begin the next one, so there is at most one way to match, and it
  cuts a line without blanks around it into its words.
Main exports: versionRests, tailMatches, lineMatches, lineMatches_eq
-/
import HttpScript.Proofs.Script.RequestWriting
import HttpScript.Proofs.Text.Pattern

namespace HttpScript.Script

open Text Pattern

/-! ### The pattern -/

/-- `HTTP/\d+(?:\.\d+)?`, where the point and the digits behind it are taken if they can be. -/
def versionRests (s : List Char) : List (List Char) :=
  ((literal 'H' ['T', 'T', 'P', '/']).rests s).flatMap fun s =>
    ((run isDigitChar).rests s).flatMap fun s =>
      (seq (one (· == '.')) (run isDigitChar)).rests s ++ [s]

/-- `(HTTP/\d+(?:\.\d+)?)$` -/
def versionMatches (s : List Char) : List (List Char) :=
  (cuts versionRests s).flatMap fun p => if p.2 = [] then [p.1] else []

/-- `(?:\s+(HTTP/\d+(?:\.\d+)?))?$` -/
def tailMatches (s : List Char) : List (Option (List Char)) :=
  ((run isBlank).rests s).flatMap (fun s => (versionMatches s).map some) ++
    if s = [] then [none] else []

/-- `\s+(\S+)(?:\s+(HTTP/\d+(?:\.\d+)?))?$` -/
def targetMatches (s : List Char) : List (List Char × Option (List Char)) :=
  ((run isBlank).rests s).flatMap fun s =>
    (cuts (run (fun c => !isBlank c)).rests s).flatMap fun p => (tailMatches p.2).map (p.1, ·)

/-- What the pattern takes for the method, the target and the version, the preferred match first. -/
def lineMatches (s : List Char) : List (List Char × List Char × Option (List Char)) :=
  (cuts (run Char.isAlpha).rests s).flatMap fun p => (targetMatches p.2).map (p.1, ·)

/-! ### Versions -/

section Version

variable {α : Type} {c : Char}

theorem flatMap_rests_digits_atEnd (a : α) (s : List Char) :
    ((run isDigitChar).rests s).flatMap (atEnd a) =
      if s ≠ [] ∧ s.all isDigitChar = true then [a] else [] := by
  rw [flatMap_rests_run (fun c rest _ => rfl), atEnd]
  cases s with
  | nil => rfl
  | cons c s =>
      cases hc : isDigitChar c with
      | false => simp [hc]
      | true => simp [hc, List.dropWhile_eq_nil_iff]

/-- A point and digits, or neither, up to the end of the text. -/
def fractionMatches (a : α) (s : List Char) : List α :=
  ((seq (one (· == '.')) (run isDigitChar)).rests s ++ [s]).flatMap (atEnd a)

theorem fractionMatches_cons (a : α) (part : List Char) :
    fractionMatches a (c :: part) =
      if c = '.' ∧ part ≠ [] ∧ part.all isDigitChar = true then [a] else [] := by
  have hend : atEnd a (c :: part) = [] := rfl
  rw [fractionMatches, List.flatMap_append, List.flatMap_singleton, hend, List.append_nil]
  by_cases hc : c = '.'
  · simp [hc, flatMap_rests_digits_atEnd]
  · simp [hc]

theorem flatMap_rests_fractionMatches (a : α) (s : List Char) :
    ((run isDigitChar).rests s).flatMap (fractionMatches a) =
      if isVersionNumber s then [a] else [] := by
  have hpoint : isDigitChar '.' = false := by decide
  rw [flatMap_rests_run, isVersionNumber]
  · cases hrest : s.dropWhile isDigitChar with
    | nil =>
        by_cases hwhole : s.takeWhile isDigitChar = []
        · simp only [hwhole, if_true, List.isEmpty_nil, Bool.not_true, Bool.false_eq_true, if_false]
        · simp only [hwhole, if_false, List.isEmpty_eq_false_iff.mpr hwhole, Bool.not_false, if_true]
          simp [fractionMatches, atEnd]
    | cons point part =>
        rw [fractionMatches_cons]
        by_cases hwhole : s.takeWhile isDigitChar = []
        · simp [hwhole]
        · simp [hwhole, and_assoc]
  · intro c rest hc
    have hne : c ≠ '.' := by
      rintro rfl
      exact Bool.false_ne_true (hpoint.symm.trans hc)
    rw [fractionMatches_cons, if_neg (fun h => hne h.1)]

/-- A version is all that is left of the line. -/
theorem versionMatches_eq (s : List Char) : versionMatches s = if isVersion s then [s] else [] := by
  have hend : ∀ rest ∈ versionRests s,
      (if rest = [] then [s.take (s.length - rest.length)] else []) = atEnd s rest := by
    intro rest _
    unfold atEnd
    split
    · next hrest => simp [hrest]
    · rfl
  calc versionMatches s
      = (versionRests s).flatMap (atEnd s) := by
        rw [versionMatches, cuts, List.flatMap_map]
        exact List.flatMap_congr hend
    _ = ((literal 'H' ['T', 'T', 'P', '/']).rests s).flatMap (fun number =>
          ((run isDigitChar).rests number).flatMap (fractionMatches s)) := by
        rw [versionRests, List.flatMap_assoc]
        simp only [List.flatMap_assoc]
        rfl
    _ = if isVersion s then [s] else [] := by
        have hmark : ['H', 'T', 'T', 'P', '/'] = "HTTP/".toList := rfl
        rw [rests_literal, hmark, isVersion]
        simp only [flatMap_rests_fractionMatches]
        cases dropLead? "HTTP/".toList s with
        | none => simp
        | some number => simp

end Version

/-! ### Tails and lines -/

variable {c : Char}

theorem versionMatches_cons_of_isBlank (hc : isBlank c = true) (s : List Char) :
    versionMatches (c :: s) = [] := by
  rw [versionMatches_eq, if_neg]
  intro hversion
  have hblank := (VersionForm.of_isVersion hversion).not_isBlank c List.mem_cons_self
  exact Bool.false_ne_true (hblank.symm.trans hc)

theorem tailMatches_cons_of_not_isBlank (hc : isBlank c = false) (s : List Char) :
    tailMatches (c :: s) = [] := by
  simp [tailMatches, run, hc]

/-- Behind the target there is nothing, or blanks and a version. -/
theorem tailMatches_append {blanks rest : List Char} (hblanks : AllBlank blanks)
    (hrest : IsTrimmed rest) (hiff : blanks = [] ↔ rest = []) :
    tailMatches (blanks ++ rest) =
      if rest = [] then [none] else if isVersion rest then [some rest] else [] := by
  have hbefore : ∀ c s, isBlank c = true → (versionMatches (c :: s)).map some = [] := by
    intro c s hc
    rw [versionMatches_cons_of_isBlank hc, List.map_nil]
  rw [tailMatches, flatMap_rests_run hbefore, takeWhile_append_of_stop hblanks hrest.head,
    dropWhile_append_of_stop hblanks hrest.head, versionMatches_eq]
  by_cases hnone : rest = []
  · simp [hiff.mpr hnone, hnone]
  · have hsome : blanks ≠ [] := fun h => hnone (hiff.mp h)
    cases isVersion rest with
    | false => simp [hnone, hsome]
    | true => simp [hnone, hsome]

/-- Between the method and the target there are blanks. -/
theorem targetMatches_eq_nil {s : List Char} (h : ∀ c ∈ s.head?, isBlank c = false) :
    targetMatches s = [] := by
  cases s with
  | nil => simp [targetMatches, run]
  | cons c s => simp [targetMatches, run, h c rfl]

theorem targetMatches_append {blanks word gap rest : List Char} (hne : blanks ≠ [])
    (hblanks : AllBlank blanks) (hwordNe : word ≠ []) (hword : ∀ c ∈ word, isBlank c = false)
    (hgap : AllBlank gap) (hrest : IsTrimmed rest) (hiff : gap = [] ↔ rest = []) :
    targetMatches (blanks ++ (word ++ (gap ++ rest))) =
      (if rest = [] then [none] else if isVersion rest then [some rest] else []).map (word, ·) := by
  have hwordHead : ∀ c ∈ (word ++ (gap ++ rest)).head?, isBlank c = false := by
    intro c hc
    rw [List.head?_append_of_ne_nil _ hwordNe] at hc
    exact hword c (List.mem_of_mem_head? hc)
  have hwordRun : ∀ c ∈ word, (!isBlank c) = true := by
    intro c hc
    rw [hword c hc]
    rfl
  have hgapHead : ∀ c ∈ (gap ++ rest).head?, (!isBlank c) = false := by
    intro c hc
    have hgapNe : gap ≠ [] := by
      intro hnil
      rw [hnil, hiff.mp hnil] at hc
      cases hc
    rw [List.head?_append_of_ne_nil _ hgapNe] at hc
    rw [hgap c (List.mem_of_mem_head? hc)]
    rfl
  have hbefore : ∀ (taken : List Char) c s, (!isBlank c) = true →
      (tailMatches (c :: s)).map (taken, ·) = [] := by
    intro taken c s hc
    rw [tailMatches_cons_of_not_isBlank (by simpa using hc), List.map_nil]
  have hfront : ∀ c s, isBlank c = true → ((cuts (run (fun c => !isBlank c)).rests (c :: s)).flatMap
      fun p => (tailMatches p.2).map (p.1, ·)) = [] := by
    intro c s hc
    rw [flatMap_cuts_run hbefore, List.takeWhile_cons, hc]
    rfl
  rw [targetMatches, flatMap_rests_run hfront, takeWhile_append_of_stop hblanks hwordHead,
    dropWhile_append_of_stop hblanks hwordHead, if_neg hne, flatMap_cuts_run hbefore,
    takeWhile_append_of_stop hwordRun hgapHead, dropWhile_append_of_stop hwordRun hgapHead,
    if_neg hwordNe, tailMatches_append hgap hrest hiff]

/-- The pattern begins with the longest run of letters. -/
theorem lineMatches_eq_takeWhile (s : List Char) :
    lineMatches s =
      if s.takeWhile Char.isAlpha = [] then []
      else (targetMatches (s.dropWhile Char.isAlpha)).map (s.takeWhile Char.isAlpha, ·) := by
  rw [lineMatches, flatMap_cuts_run]
  intro taken c rest hc
  rw [targetMatches_eq_nil, List.map_nil]
  intro d hd
  obtain rfl := Option.some.inj hd
  exact not_isBlank_of_isAlpha hc

/-! ### Words -/

theorem shape?_eq_none_of_not_letters {word : List Char} (h : ¬∀ c ∈ word, c.isAlpha = true)
    (more : List (List Char)) : shape? (word :: more) = none := by
  rw [← List.all_eq_true] at h
  unfold shape?
  split
  · next heq =>
    obtain ⟨rfl, -⟩ := List.cons.inj heq
    rw [if_neg h]
  · next heq =>
    obtain ⟨rfl, -⟩ := List.cons.inj heq
    rw [if_neg (fun hboth => h (Bool.and_eq_true_iff.mp hboth).1)]
  · rfl

/-- What is left behind the target has to be a version if it is anything. -/
theorem toList_shape? {method target behind : List Char} (hletters : ∀ c ∈ method, c.isAlpha = true)
    (hbehind : IsTrimmed behind) :
    (shape? (method :: target :: words behind)).toList =
      (if behind = [] then [none] else if isVersion behind then [some behind] else []).map
        (method, target, ·) := by
  rw [← List.all_eq_true] at hletters
  by_cases hnone : behind = []
  · simp [hnone, shape?, hletters]
  rw [if_neg hnone]
  cases hwords : words behind with
  | nil => exact absurd hwords (words_ne_nil hbehind hnone)
  | cons version more =>
      cases more with
      | nil =>
          obtain rfl := eq_of_words_eq_singleton hbehind hwords
          cases hversion : isVersion behind with
          | false => simp [shape?, hversion]
          | true => simp [shape?, hversion, hletters]
      | cons next more =>
          -- A version is a single word.
          have hversion : isVersion behind = false := by
            by_contra h
            have hform := VersionForm.of_isVersion (by simpa using h)
            rw [words_of_forall_not_blank hnone hform.not_isBlank] at hwords
            cases hwords
          simp [shape?, hversion]

/-- The pattern cuts a line without blanks around it into its words. -/
theorem lineMatches_eq {s : List Char} (h : IsTrimmed s) :
    lineMatches s = (shape? (words s)).toList := by
  rw [lineMatches_eq_takeWhile]
  by_cases hs : s = []
  · rw [hs]
    rfl
  obtain ⟨word, blanks, rest, rfl, hwordNe, hword, hblanks, hrest, hiff⟩ := exists_first_word h hs
  rw [words_first hwordNe hword hblanks hiff]
  by_cases hletters : ∀ c ∈ word, c.isAlpha = true
  · have hstop : ∀ c ∈ (blanks ++ rest).head?, c.isAlpha = false := by
      intro c hc
      have hblanksNe : blanks ≠ [] := by
        intro hnil
        rw [hnil, hiff.mp hnil] at hc
        cases hc
      rw [List.head?_append_of_ne_nil _ hblanksNe] at hc
      by_contra halpha
      have hblank := not_isBlank_of_isAlpha (by simpa using halpha)
      exact Bool.false_ne_true (hblank.symm.trans (hblanks c (List.mem_of_mem_head? hc)))
    rw [takeWhile_append_of_stop hletters hstop, dropWhile_append_of_stop hletters hstop,
      if_neg hwordNe]
    by_cases hrestNil : rest = []
    · rw [hiff.mpr hrestNil, hrestNil, List.append_nil, words_nil, targetMatches_eq_nil (by simp)]
      rfl
    · obtain ⟨target, gap, behind, rfl, htargetNe, htarget, hgap, hbehind, hgapIff⟩ :=
        exists_first_word hrest hrestNil
      rw [words_first htargetNe htarget hgap hgapIff, toList_shape? hletters hbehind,
        targetMatches_append (fun hnil => hrestNil (hiff.mp hnil)) hblanks htargetNe htarget hgap
          hbehind hgapIff, List.map_map]
      rfl
  · have hdrop : (word ++ (blanks ++ rest)).dropWhile Char.isAlpha =
        word.dropWhile Char.isAlpha ++ (blanks ++ rest) := by
      rw [List.dropWhile_append, if_neg]
      rwa [List.isEmpty_iff, List.dropWhile_eq_nil_iff]
    have hhead : ∀ c ∈ (word.dropWhile Char.isAlpha ++ (blanks ++ rest)).head?,
        isBlank c = false := by
      intro c hc
      rw [List.head?_append_of_ne_nil _ (by rwa [Ne, List.dropWhile_eq_nil_iff])] at hc
      exact hword c ((List.dropWhile_suffix Char.isAlpha).subset (List.mem_of_mem_head? hc))
    rw [shape?_eq_none_of_not_letters hletters, hdrop, targetMatches_eq_nil hhead, List.map_nil,
      ite_self]
    rfl

end HttpScript.Script
