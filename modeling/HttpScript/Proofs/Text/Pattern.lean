/-
Module: HttpScript.Proofs.Text.Pattern
Purpose: Patterns of characters, and the order in which they prefer their matches.  A repetition is
  told whether it wants much or little, and tries the rest of the pattern in that order.
Main exports: Pattern, Pattern.rests, rests_many_of_shorter, flatMap_rests_many_one, rests_many_one,
  rests_few_one, Pattern.run, Pattern.literal, atEnd, cuts, flatMap_cuts_run, rests_literal
-/
import HttpScript.Text.Blank
import Mathlib.Data.List.Infix

namespace HttpScript.Text

/-- A pattern of characters. -/
inductive Pattern where
  | one (accepts : Char → Bool)
  | seq (first second : Pattern)
  /-- As often as possible. -/
  | many (body : Pattern)
  /-- As rarely as possible. -/
  | few (body : Pattern)

namespace Pattern

/-- What each match at the start of a text leaves of it, the preferred match first.  After a turn
that took nothing a repetition does not go on. -/
def rests : Pattern → List Char → List (List Char)
  | .one accepts, s =>
    match s with
    | [] => []
    | c :: rest => if accepts c then [rest] else []
  | .seq first second, s => (first.rests s).flatMap (fun rest => second.rests rest)
  | .many body, s =>
    (body.rests s).flatMap (fun rest =>
      if _h : rest.length < s.length then (many body).rests rest else []) ++ [s]
  | .few body, s =>
    s :: (body.rests s).flatMap (fun rest =>
      if _h : rest.length < s.length then (few body).rests rest else [])
termination_by p s => (p, s.length)

variable {accepts : Char → Bool} {c : Char} {s : List Char} {body next : Pattern}

@[simp] theorem rests_one_nil : (one accepts).rests [] = [] := by
  rw [rests]

@[simp] theorem rests_one_cons :
    (one accepts).rests (c :: s) = if accepts c then [s] else [] := by
  rw [rests]

@[simp] theorem rests_seq : (seq body next).rests s = (body.rests s).flatMap next.rests := by
  rw [rests]

/-- A repetition takes nothing where its body has no match. -/
theorem rests_many_of_eq_nil (h : body.rests s = []) : (many body).rests s = [s] := by
  rw [rests, h]
  rfl

/-- Each turn of a repetition takes something. -/
theorem rests_many_of_shorter (h : ∀ rest ∈ body.rests s, rest.length < s.length) :
    (many body).rests s = (body.rests s).flatMap (many body).rests ++ [s] := by
  rw [rests]
  refine congrArg (· ++ [s]) (List.flatMap_congr ?_)
  intro rest hrest
  exact dif_pos (h rest hrest)

/-- If the rest of a pattern has no match in front of a character that the repetition takes, the
repetition takes all it can. -/
theorem flatMap_rests_many_one {α : Type} {f : List Char → List α}
    (hf : ∀ c rest, accepts c = true → f (c :: rest) = []) :
    ((many (one accepts)).rests s).flatMap f = f (s.dropWhile accepts) := by
  induction s with
  | nil =>
      rw [rests_many_of_eq_nil rests_one_nil]
      simp
  | cons c s ih =>
      cases hc : accepts c with
      | false =>
          rw [rests_many_of_eq_nil (by simp [hc])]
          simp [hc]
      | true =>
          rw [rests_many_of_shorter (by simp [hc])]
          simp [hc, ih, hf c s hc]

/-- A repetition of single characters that wants much takes less and less of a run. -/
theorem rests_many_one {taken left : List Char} (htaken : ∀ c ∈ taken, accepts c = true)
    (hstop : ∀ c ∈ left.head?, accepts c = false) :
    (many (one accepts)).rests (taken ++ left) = (taken.tails.map (· ++ left)).reverse := by
  induction taken with
  | nil =>
      have hnone : (one accepts).rests left = [] := by
        cases left with
        | nil => exact rests_one_nil
        | cons c left => simp [hstop c rfl]
      rw [List.nil_append, rests_many_of_eq_nil hnone]
      rfl
  | cons c taken ih =>
      obtain ⟨hc, htaken⟩ := List.forall_mem_cons.mp htaken
      rw [List.cons_append, rests_many_of_shorter (by simp [hc]), rests_one_cons, if_pos hc,
        List.flatMap_singleton, ih htaken, List.tails_cons, List.map_cons, List.reverse_cons]
      rfl

/-- A repetition of single characters that wants little takes more and more. -/
theorem rests_few_one (h : ∀ c ∈ s, accepts c = true) : (few (one accepts)).rests s = s.tails := by
  induction s with
  | nil =>
      rw [rests, rests_one_nil]
      rfl
  | cons c s ih =>
      obtain ⟨hc, hs⟩ := List.forall_mem_cons.mp h
      rw [rests]
      simp [hc, ih hs]

/-! ### Runs and fixed texts -/

/-- One or more characters, as many as possible. -/
def run (accepts : Char → Bool) : Pattern :=
  .seq (.one accepts) (.many (.one accepts))

/-- A text that stands there as it is, given by its first character and the others. -/
def literal (c : Char) : List Char → Pattern
  | [] => .one (· == c)
  | d :: rest => .seq (.one (· == c)) (literal d rest)

/-- At the end of the text a match is complete. -/
def atEnd {α : Type} (a : α) (rest : List Char) : List α :=
  if rest = [] then [a] else []

/-- What each match takes off the start of a text, and what it leaves. -/
def cuts (rests : List Char → List (List Char)) (s : List Char) : List (List Char × List Char) :=
  (rests s).map (fun rest => (s.take (s.length - rest.length), rest))

/-- As with a repetition of any length, but the run takes at least one character. -/
theorem flatMap_rests_run {α : Type} {f : List Char → List α}
    (hf : ∀ c rest, accepts c = true → f (c :: rest) = []) :
    ((run accepts).rests s).flatMap f =
      if s.takeWhile accepts = [] then [] else f (s.dropWhile accepts) := by
  cases s with
  | nil => simp [run]
  | cons c s =>
      cases hc : accepts c with
      | false => simp [run, hc]
      | true => simp [run, hc, flatMap_rests_many_one hf]

/-- What a match takes off is all that stands in front of what it leaves. -/
theorem take_length_sub (taken left : List Char) :
    (taken ++ left).take ((taken ++ left).length - left.length) = taken := by
  rw [List.length_append, Nat.add_sub_cancel, List.take_left]

theorem take_length_sub_dropWhile (s : List Char) :
    s.take (s.length - (s.dropWhile accepts).length) = s.takeWhile accepts := by
  have htake := take_length_sub (s.takeWhile accepts) (s.dropWhile accepts)
  rwa [List.takeWhile_append_dropWhile] at htake

theorem flatMap_cuts_run {α : Type} {f : List Char × List Char → List α}
    (hf : ∀ taken c rest, accepts c = true → f (taken, c :: rest) = []) :
    (cuts (run accepts).rests s).flatMap f =
      if s.takeWhile accepts = [] then [] else f (s.takeWhile accepts, s.dropWhile accepts) := by
  rw [cuts, List.flatMap_map, flatMap_rests_run (fun c rest hc => hf _ c rest hc),
    take_length_sub_dropWhile]

theorem rests_literal (c : Char) (word s : List Char) :
    (literal c word).rests s = (dropLead? (c :: word) s).toList := by
  induction word generalizing c s with
  | nil =>
      cases s with
      | nil => simp [literal, dropLead?]
      | cons a s =>
          by_cases ha : a = c
          · simp [literal, dropLead?, ha]
          · simp [literal, dropLead?, ha, Ne.symm ha]
  | cons d word ih =>
      cases s with
      | nil => simp [literal, dropLead?]
      | cons a s =>
          by_cases ha : a = c
          · simp [literal, ha, ih, dropLead?]
          · simp [literal, dropLead?, ha, Ne.symm ha]

end Pattern

end HttpScript.Text
