/-
Module: HttpScript.Proofs.Script.CommentInsertion
Purpose: What one comment more does to a script.  A comment opens a block like any other line that
  is no directive.  Put into a block it changes nothing; put in front of one it begins the block
  earlier, which matters for an indented file variable behind it and for nothing else.
Main exports: block?_append_cons, OpensEarly, directives_append_cons_iff, scan_insert_comment_iff,
  not_scan_insert_comment
-/
import HttpScript.Proofs.Script.Numbering
import HttpScript.Proofs.Script.Stretch
import HttpScript.Proofs.Script.Renumbering

namespace HttpScript.Script

open Text

variable {before after front back block block' rest : List NumberedLine}
  {line comment : NumberedLine}

/-! ### In a block -/

theorem block?_congr (hretained : retained block = retained block')
    (hname : blockName? block = blockName? block') : block? block = block? block' := by
  simp only [block?, hretained, hname]

/-- A block has the same request without a comment that gives it no name. -/
theorem block?_append_cons (front back : List NumberedLine) (hcomment : isComment comment.2 = true)
    (hname : requestName? comment.2 = none) :
    block? (front ++ comment :: back) = block? (front ++ back) := by
  apply block?_congr
  · simp [retained, hcomment]
  · simp [blockName?, hname]

/-- A block has the same request without a blank line in front. -/
theorem block?_cons_of_isBlankLine (h : isBlankLine line.2 = true) :
    block? (line :: rest) = block? rest := by
  have hcomment := isComment_eq_false_of_isBlankLine h
  have hname := requestName?_eq_none_of_not_isComment hcomment
  apply block?_congr
  · simp [retained, hcomment, h]
  · simp [blockName?, hname]

/-! ### In a stretch -/

/-- All lines of a stretch are one block exactly if the first one that is not blank opens it. -/
theorem directives_eq_block?_iff (hback : NoBoundary back) :
    directives back = ((block? back).map .request).toList ↔
      ∀ l ∈ back.find? (fun l => !isBlankLine l.2), variableLine? l.2 = none := by
  induction back with
  | nil => simp [directives, block?, retained]
  | cons line rest ih =>
      by_cases hblank : isBlankLine line.2 = true
      · have hskip : directives (line :: rest) = directives rest := by
          rw [directives, if_pos hblank]
        rw [hskip, block?_cons_of_isBlankLine hblank, List.find?_cons_of_neg (by simp [hblank])]
        exact ih fun l hl => hback l (List.mem_cons_of_mem _ hl)
      · rw [List.find?_cons_of_pos (by simp [hblank])]
        cases hvariable : variableLine? line.2 with
        | none =>
            have hopens : opensBlock line.2 = true := by simp [opensBlock, hblank, hvariable]
            simp [directives_cons_of_opensBlock hback hopens, hvariable]
        | some v =>
            have hfirst : directives (line :: rest) =
                .variable ⟨.wholeLine line.1 line.2, .ofList v.key, .ofList v.value⟩ ::
                  directives rest := by
              have hinclude := includeDirective?_eq_none (hback line List.mem_cons_self)
              rw [directives, if_neg hblank, hinclude]
              simp only [fileVariable?, hvariable, Option.map_some]
            have hne : directives (line :: rest) ≠
                ((block? (line :: rest)).map .request).toList := by
              rw [hfirst]
              intro h
              cases hblock : block? (line :: rest) with
              | none =>
                  rw [hblock] at h
                  cases h
              | some b =>
                  rw [hblock] at h
                  cases h
            simp [hne, hvariable]

/-- One comment more in a stretch changes it if nothing in front of the comment opens a block and a
file variable is the first thing behind it, and not otherwise. -/
theorem directives_stretch_append_cons_iff (hfront : NoBoundary front) (hback : NoBoundary back)
    (hcomment : isComment comment.2 = true) (hboundary : isBoundary comment.2 = false)
    (hname : requestName? comment.2 = none) :
    directives (front ++ comment :: back) = directives (front ++ back) ↔
      ¬((∀ l ∈ front, opensBlock l.2 = false) ∧
        ∃ l ∈ back.find? (fun l => !isBlankLine l.2), (variableLine? l.2).isSome = true) := by
  have hmore : NoBoundary (comment :: back) := List.forall_mem_cons.mpr ⟨hboundary, hback⟩
  by_cases hpassed : ∀ l ∈ front, opensBlock l.2 = false
  · have hblock : block? (comment :: back) = block? back :=
      block?_append_cons [] back hcomment hname
    rw [directives_append_of_forall hfront hmore hpassed,
      directives_append_of_forall hfront hback hpassed, List.append_cancel_left_eq,
      directives_cons_of_opensBlock hmore (opensBlock_of_isComment hcomment), hblock, eq_comm,
      directives_eq_block?_iff hback]
    simp only [and_iff_right hpassed, not_exists, not_and, Option.not_isSome_iff_eq_none]
  · obtain ⟨l, hl, hopens⟩ : ∃ l ∈ front, opensBlock l.2 = true := by simpa using hpassed
    obtain ⟨skipped, first, rest, rfl, hskipped, hfirst⟩ := exists_opensBlock_of_mem hl hopens
    obtain ⟨hstart, hrest⟩ := List.forall_mem_append.mp hfront
    have hlong : NoBoundary (first :: (rest ++ comment :: back)) :=
      List.forall_mem_append.mpr ⟨hrest, hmore⟩
    have hshort : NoBoundary (first :: (rest ++ back)) :=
      List.forall_mem_append.mpr ⟨hrest, hback⟩
    have hblock : block? (first :: (rest ++ comment :: back)) = block? (first :: (rest ++ back)) :=
      block?_append_cons (first :: rest) back hcomment hname
    have heq : directives (skipped ++ first :: rest ++ comment :: back) =
        directives (skipped ++ first :: rest ++ back) := by
      rw [List.append_assoc, List.append_assoc, List.cons_append, List.cons_append,
        directives_append_of_forall hstart hlong hskipped,
        directives_append_of_forall hstart hshort hskipped,
        directives_cons_of_opensBlock hlong hfirst, directives_cons_of_opensBlock hshort hfirst,
        hblock]
    simp only [heq, hpassed, false_and, not_false_eq_true]

/-! ### In a script -/

/-- A comment between two parts of a script opens a block too early if nothing has opened one since
the last boundary and the next line with something on it is an indented file variable. -/
structure OpensEarly (before after : List (List Char)) : Prop where
  none_open : ∀ line ∈ before.rtakeWhile (fun line => !isBoundary line), opensBlock line = false
  variable_next : ∃ line ∈ after.find? (fun line => !isBlankLine line),
    isBoundary line = false ∧ (variableLine? line).isSome = true

/-- A line that is not blank ends a search for one, and so does a boundary. -/
theorem exists_mem_find?_takeWhile_iff {p : NumberedLine → Prop} (after : List NumberedLine) :
    (∃ l ∈ (after.takeWhile (fun l => !isBoundary l.2)).find? (fun l => !isBlankLine l.2), p l) ↔
      ∃ l ∈ after.find? (fun l => !isBlankLine l.2), isBoundary l.2 = false ∧ p l := by
  induction after with
  | nil => simp
  | cons line rest ih =>
      cases hboundary : isBoundary line.2 with
      | true =>
          have hblank := isBlankLine_of_isBoundary hboundary
          simp [hboundary, hblank]
      | false =>
          rw [List.takeWhile_cons_of_pos (by simp [hboundary])]
          by_cases hblank : isBlankLine line.2 = true
          · simp only [List.find?_cons, hblank, Bool.not_true]
            exact ih
          · simp [hblank, hboundary]

theorem opensEarly_map_iff : OpensEarly (before.map (·.2)) (after.map (·.2)) ↔
    (∀ l ∈ before.rtakeWhile (fun l => !isBoundary l.2), opensBlock l.2 = false) ∧
    ∃ l ∈ (after.takeWhile (fun l => !isBoundary l.2)).find? (fun l => !isBlankLine l.2),
      (variableLine? l.2).isSome = true := by
  have hfront : (before.map (·.2)).rtakeWhile (fun line => !isBoundary line) =
      (before.rtakeWhile (fun l => !isBoundary l.2)).map (·.2) := by
    rw [List.rtakeWhile, ← List.map_reverse, List.takeWhile_map, ← List.map_reverse]
    rfl
  have hnext : (after.map (·.2)).find? (fun line => !isBlankLine line) =
      (after.find? (fun l => !isBlankLine l.2)).map (·.2) := by
    rw [List.find?_map]
    rfl
  rw [exists_mem_find?_takeWhile_iff]
  constructor
  · rintro ⟨hopen, line, hline, hread⟩
    rw [hfront, List.forall_mem_map] at hopen
    rw [hnext] at hline
    obtain ⟨l, hl, rfl⟩ := Option.map_eq_some_iff.mp hline
    exact ⟨hopen, l, hl, hread⟩
  · rintro ⟨hopen, l, hl, hread⟩
    refine ⟨?_, l.2, ?_, hread⟩
    · rw [hfront, List.forall_mem_map]
      exact hopen
    · rw [hnext]
      exact Option.mem_map_of_mem _ hl

/-- A comment that gives no name and is no boundary changes what a script says exactly where it
opens a block too early. -/
theorem directives_append_cons_iff (hcomment : isComment comment.2 = true)
    (hboundary : isBoundary comment.2 = false) (hname : requestName? comment.2 = none) :
    directives (before ++ comment :: after) = directives (before ++ after) ↔
      ¬OpensEarly (before.map (·.2)) (after.map (·.2)) := by
  let inside (l : NumberedLine) : Bool := !isBoundary l.2
  -- the stretch around the comment, and what stands on either side of it
  have hbefore : before.rdropWhile inside ++ before.rtakeWhile inside = before :=
    List.rdropWhile_append_rtakeWhile
  have hafter : after.takeWhile inside ++ after.dropWhile inside = after :=
    List.takeWhile_append_dropWhile
  have hto : ToBoundary (before.rdropWhile inside) := toBoundary_rdropWhile before
  have hfrom : FromBoundary (after.dropWhile inside) := fromBoundary_dropWhile after
  have hlong : directives (before ++ comment :: after) =
      directives (before.rdropWhile inside) ++
        (directives (before.rtakeWhile inside ++ comment :: after.takeWhile inside) ++
          directives (after.dropWhile inside)) := by
    rw [← directives_append_stretch hto hfrom, List.append_assoc, List.cons_append, hafter,
      ← List.append_assoc, hbefore]
  have hshort : directives (before ++ after) =
      directives (before.rdropWhile inside) ++
        (directives (before.rtakeWhile inside ++ after.takeWhile inside) ++
          directives (after.dropWhile inside)) := by
    rw [← directives_append_stretch hto hfrom, List.append_assoc, hafter, ← List.append_assoc,
      hbefore]
  rw [hlong, hshort, List.append_cancel_left_eq, List.append_cancel_right_eq,
    directives_stretch_append_cons_iff (noBoundary_rtakeWhile before) (noBoundary_takeWhile after)
      hcomment hboundary hname, opensEarly_map_iff]

/-- A script with one comment more: the comment gives no name, and three hashes do not begin its
line.  The directives are those of the script without it, with the numbers that their lines now have,
exactly if the comment does not open a block too early. -/
theorem scan_insert_comment_iff (text text' : String) (i : Nat) (comment : List Char)
    (hi : i ≤ (Text.lines text.toList).length)
    (hlines : Text.lines text'.toList = (Text.lines text.toList).insertIdx i comment)
    (hcomment : isComment comment = true) (hmark : ¬"###".toList <+: comment)
    (hname : ∀ name, ¬NameForm comment name) :
    scan text' = (scan text).map (·.mapLines (afterInsert i)) ↔
      ¬OpensEarly ((Text.lines text.toList).take i) ((Text.lines text.toList).drop i) := by
  let before := (numberedLines 0 text.toList).take i
  let after := (numberedLines 0 text.toList).drop i
  have hsplit : before ++ after = numberedLines 0 text.toList := List.take_append_drop ..
  have hlong : scan text' = directives (renumber (afterInsert i) before ++
      (i, comment) :: renumber (afterInsert i) after) :=
    congrArg directives (numberedLines_insertIdx hi hlines)
  have hshort : (scan text).map (·.mapLines (afterInsert i)) =
      directives (renumber (afterInsert i) before ++ renumber (afterInsert i) after) := by
    rw [renumber, renumber, ← List.map_append, hsplit, scan,
      ← directives_renumber (strictMono_afterInsert i)]
    rfl
  have htake : (renumber (afterInsert i) before).map (·.2) = (Text.lines text.toList).take i := by
    rw [map_snd_renumber, List.map_take, map_snd_numberedLines]
  have hdrop : (renumber (afterInsert i) after).map (·.2) = (Text.lines text.toList).drop i := by
    rw [map_snd_renumber, List.map_drop, map_snd_numberedLines]
  rw [hlong, hshort, directives_append_cons_iff hcomment
    (isBoundary_eq_false_of_isComment hcomment hmark) (requestName?_eq_none_iff.mpr hname), htake,
    hdrop]

/-- Behind the line of a request, a comment does not open anything: the line it is put in front of
was part of the request before. -/
theorem scan_insert_comment_inRequest :
    Text.lines "GET https://a.example\n# note\n  @a = 1".toList =
      (Text.lines "GET https://a.example\n  @a = 1".toList).insertIdx 1 "# note".toList ∧
    isComment "# note".toList = true ∧ ¬"###".toList <+: "# note".toList ∧
    (∀ name, ¬NameForm "# note".toList name) ∧
    scan "GET https://a.example\n# note\n  @a = 1" =
      (scan "GET https://a.example\n  @a = 1").map (·.mapLines (afterInsert 1)) := by
  have hlines : Text.lines "GET https://a.example\n# note\n  @a = 1".toList =
      (Text.lines "GET https://a.example\n  @a = 1".toList).insertIdx 1 "# note".toList := by
    decide
  have hcomment : isComment "# note".toList = true := by decide
  have hmark : ¬"###".toList <+: "# note".toList := by decide
  have hname : ∀ name, ¬NameForm "# note".toList name :=
    requestName?_eq_none_iff.mp (by decide)
  have hopen : ¬OpensEarly ((Text.lines "GET https://a.example\n  @a = 1".toList).take 1)
      ((Text.lines "GET https://a.example\n  @a = 1".toList).drop 1) := by
    intro h
    have hfirst := h.none_open "GET https://a.example".toList (by decide)
    revert hfirst
    decide
  exact ⟨hlines, hcomment, hmark, hname, (scan_insert_comment_iff _ _ 1 "# note".toList
    (by decide) hlines hcomment hmark hname).mpr hopen⟩

/-- In front of an indented file variable, a comment makes a request of it. -/
theorem not_scan_insert_comment : ¬∀ (text text' : String) (i : Nat) (comment : List Char),
    i ≤ (Text.lines text.toList).length →
    Text.lines text'.toList = (Text.lines text.toList).insertIdx i comment →
    isComment comment = true → ¬"###".toList <+: comment → (∀ name, ¬NameForm comment name) →
    scan text' = (scan text).map (·.mapLines (afterInsert i)) := by
  intro h
  have hname : ∀ name, ¬NameForm "# note".toList name :=
    requestName?_eq_none_iff.mp (by decide)
  have heq := h "  @a = 1\n" "# note\n  @a = 1\n" 0 "# note".toList (Nat.zero_le _)
    (by decide) (by decide) (by decide) hname
  revert heq
  decide +kernel

end HttpScript.Script
