/-
Module: HttpScript.Proofs.Variable.ReferencePattern
Purpose: References as matches of the pattern `\{\{([A-Za-z0-9_]+)(\..*?)*\}\}`.  Its path is a
  repetition that wants much of parts that want little, and could be cut into parts in many ways; the
  match that the pattern prefers still ends with the first closing braces behind the name.
Main exports: namePattern, pathPattern, referenceMatches, head?_referenceMatches
-/
import HttpScript.Proofs.Text.Pattern
import HttpScript.Variable.Reference

namespace HttpScript.Variable

open Text Pattern

/-! ### The pattern -/

/-- `\{\{([A-Za-z0-9_]+)` -/
def namePattern : Pattern :=
  .seq (.one (· == '\x7b')) (.seq (.one (· == '\x7b'))
    (.seq (.one isNameChar) (.many (.one isNameChar))))

/-- `\..*?`, where the dot that stands for a character stands for no line feed. -/
def partPattern : Pattern :=
  .seq (.one (· == '.')) (.few (.one (· != '\n')))

/-- `\}\}` -/
def closingPattern : Pattern :=
  .seq (.one (· == '\x7d')) (.one (· == '\x7d'))

/-- `(\..*?)*\}\}` -/
def pathPattern : Pattern :=
  .seq (.many partPattern) closingPattern

/-- What each match at the start of a text leaves behind the name and behind the whole, the preferred
match first. -/
def referenceMatches (s : List Char) : List (List Char × List Char) :=
  (namePattern.rests s).flatMap (fun rest => (pathPattern.rests rest).map (rest, ·))

/-! ### The preferred match -/

variable {s : List Char}

@[simp] theorem rests_closingPattern_closing (s : List Char) :
    closingPattern.rests ('\x7d' :: '\x7d' :: s) = [s] := by
  simp [closingPattern]

theorem rests_closingPattern_of_ne {c : Char}
    (h : ∀ after, c = '\x7d' → s = '\x7d' :: after → False) : closingPattern.rests (c :: s) = [] := by
  by_cases hc : c = '\x7d'
  · cases s with
    | nil => simp [closingPattern, hc]
    | cons d s =>
        have hd : d ≠ '\x7d' := fun hd => h s hc (hd ▸ rfl)
        simp [closingPattern, hc, hd]
  · simp [closingPattern, hc]

/-- A part begins with a dot and may end anywhere behind it. -/
theorem rests_partPattern_dot (h : '\n' ∉ s) : partPattern.rests ('.' :: s) = s.tails := by
  have hall : ∀ c ∈ s, (c != '\n') = true := by
    intro c hc
    exact bne_iff_ne.mpr (fun heq => h (heq ▸ hc))
  simp [partPattern, rests_few_one hall]

theorem rests_partPattern_of_head? (h : s.head? ≠ some '.') : partPattern.rests s = [] := by
  cases s with
  | nil => simp [partPattern]
  | cons c s =>
      have hc : c ≠ '.' := fun hc => h (hc ▸ rfl)
      simp [partPattern, hc]

theorem rests_pathPattern_of_head? (h : s.head? ≠ some '.') :
    pathPattern.rests s = closingPattern.rests s := by
  rw [pathPattern, rests_seq, rests_many_of_eq_nil (rests_partPattern_of_head? h),
    List.flatMap_singleton]

theorem rests_pathPattern_closing (s : List Char) :
    pathPattern.rests ('\x7d' :: '\x7d' :: s) = [s] := by
  rw [rests_pathPattern_of_head? (by simp), rests_closingPattern_closing]

theorem rests_pathPattern_eq_nil (hclosing : ∀ after, s = '\x7d' :: '\x7d' :: after → False)
    (hdot : ∀ path, s = '.' :: path → False) : pathPattern.rests s = [] := by
  have hhead : s.head? ≠ some '.' := by
    intro hhead
    obtain ⟨path, rfl⟩ := List.head?_eq_some_iff.mp hhead
    exact hdot path rfl
  rw [rests_pathPattern_of_head? hhead]
  cases s with
  | nil => simp [closingPattern]
  | cons c s => exact rests_closingPattern_of_ne (fun after hc hd => hclosing after (by rw [hc, hd]))

/-- Behind a dot a path goes on from any place. -/
theorem rests_pathPattern_dot (h : '\n' ∉ s) :
    pathPattern.rests ('.' :: s) = s.tails.flatMap pathPattern.rests := by
  have hparts := rests_partPattern_dot h
  have hshorter : ∀ rest ∈ partPattern.rests ('.' :: s), rest.length < ('.' :: s).length := by
    intro rest hrest
    rw [hparts, List.mem_tails] at hrest
    exact Nat.lt_succ_of_le hrest.length_le
  have hclosing : closingPattern.rests ('.' :: s) = [] :=
    rests_closingPattern_of_ne (fun _ hdot => absurd hdot (by decide))
  calc pathPattern.rests ('.' :: s)
      = ((many partPattern).rests ('.' :: s)).flatMap closingPattern.rests := by
        rw [pathPattern, rests_seq]
    _ = (s.tails.flatMap (many partPattern).rests).flatMap closingPattern.rests := by
        rw [rests_many_of_shorter hshorter, hparts, List.flatMap_append, List.flatMap_singleton,
          hclosing, List.append_nil]
    _ = s.tails.flatMap pathPattern.rests := by
        rw [List.flatMap_assoc]
        apply List.flatMap_congr
        intro rest _
        rw [pathPattern, rests_seq]

/-- Of all the places where a path could go on, the preferred one leads to the first closing braces.
-/
theorem head?_flatMap_tails (h : '\n' ∉ s) :
    (s.tails.flatMap pathPattern.rests).head? = (splitAtClosing s).map (·.2) := by
  induction s using splitAtClosing.induct with
  | case1 rest =>
      rw [List.tails_cons, List.flatMap_cons, rests_pathPattern_closing]
      rfl
  | case2 c rest hne ih =>
      have hrest : '\n' ∉ rest := fun hmem => h (List.mem_cons_of_mem _ hmem)
      have hnext : (splitAtClosing (c :: rest)).map (·.2) = (splitAtClosing rest).map (·.2) := by
        rw [splitAtClosing]
        · simp [Function.comp_def]
        · exact hne
      rw [List.tails_cons, List.flatMap_cons, List.head?_append, ih hrest, hnext]
      by_cases hdot : c = '.'
      · -- A new part may begin here, and all that it could match follows anyway.
        rw [hdot, rests_pathPattern_dot hrest, ih hrest, Option.or_self]
      · rw [rests_pathPattern_of_head? (by simpa using hdot), rests_closingPattern_of_ne hne]
        rfl
  | case3 =>
      rw [List.tails, List.flatMap_singleton, rests_pathPattern_of_head? (by simp)]
      simp [closingPattern, splitAtClosing]

/-- No path begins with a character of names, so the name before it takes all of them. -/
theorem rests_pathPattern_of_isNameChar {c : Char} (h : isNameChar c = true) :
    pathPattern.rests (c :: s) = [] := by
  apply rests_pathPattern_eq_nil
  · rintro after ⟨⟩
    exact absurd h (by decide)
  · rintro path ⟨⟩
    exact absurd h (by decide)

/-- Behind opening braces the name takes all characters of names, of which there must be one. -/
theorem referenceMatches_opening (inner : List Char) :
    referenceMatches ('\x7b' :: '\x7b' :: inner) =
      if inner.takeWhile isNameChar = [] then []
      else (pathPattern.rests (inner.dropWhile isNameChar)).map (inner.dropWhile isNameChar, ·) := by
  cases inner with
  | nil => simp [referenceMatches, namePattern]
  | cons c inner =>
      by_cases hc : isNameChar c = true
      · have hlongest : ((many (.one isNameChar)).rests inner).flatMap
            (fun rest => (pathPattern.rests rest).map (rest, ·)) =
            (pathPattern.rests (inner.dropWhile isNameChar)).map
              (inner.dropWhile isNameChar, ·) := by
          apply flatMap_rests_many_one
          intro d rest hd
          rw [rests_pathPattern_of_isNameChar hd, List.map_nil]
        simp [referenceMatches, namePattern, hc, hlongest]
      · simp [referenceMatches, namePattern, hc]

theorem referenceMatches_eq_nil (h : ∀ inner, s = '\x7b' :: '\x7b' :: inner → False) :
    referenceMatches s = [] := by
  match s with
  | [] => simp [referenceMatches, namePattern]
  | [c] => by_cases hc : c = '\x7b' <;> simp [referenceMatches, namePattern, hc]
  | c :: d :: inner =>
      by_cases hc : c = '\x7b'
      · have hd : d ≠ '\x7b' := fun hd => h inner (by rw [hc, hd])
        simp [referenceMatches, namePattern, hc, hd]
      · simp [referenceMatches, namePattern, hc]

/-- The preferred match leaves what a reference leaves behind its name and behind itself. -/
theorem head?_referenceMatches (h : '\n' ∉ s) : (referenceMatches s).head? =
    (token? s).map (fun t => (t.path ++ (Token.closing ++ t.after), t.after)) := by
  unfold token?
  split
  · next inner =>
    have hrest : '\n' ∉ inner.dropWhile isNameChar := by
      intro hmem
      have hinner := (List.dropWhile_suffix isNameChar).subset hmem
      exact h (List.mem_cons_of_mem _ (List.mem_cons_of_mem _ hinner))
    rw [referenceMatches_opening]
    generalize inner.takeWhile isNameChar = name
    generalize inner.dropWhile isNameChar = rest at hrest
    by_cases hname : name = []
    · simp [hname]
    · simp only [hname, if_false, List.isEmpty_iff, List.head?_map]
      split
      · next after =>
        rw [rests_pathPattern_closing]
        rfl
      · next path =>
        have hpath : '\n' ∉ path := fun hmem => hrest (List.mem_cons_of_mem _ hmem)
        rw [rests_pathPattern_dot hpath, head?_flatMap_tails hpath]
        cases hsplit : splitAtClosing path with
        | none => rfl
        | some p =>
            have heq := splitAtClosing_eq hsplit
            simp [← List.append_assoc, ← heq]
      · next hclosing hdot =>
        rw [rests_pathPattern_eq_nil hclosing hdot]
        rfl
  · next hne =>
    rw [referenceMatches_eq_nil hne]
    rfl

end HttpScript.Variable
