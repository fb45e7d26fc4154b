/-
Module: HttpScript.Proofs.Script.IncludePattern
Purpose: Includes as matches of the pattern `^(@@include\s+)(.+?)\s*$`.  Its three runs could share
  the blanks of a line in many ways.  The match that the pattern prefers leaves no blank at the ends
  of the path, unless there is nothing else behind the mark: then the path takes the last blank.
Main exports: pathMatches, includeMatches, head?_includeMatches, exists_includeForm_iff,
  scan_includes, not_scan_includes
-/
import HttpScript.Proofs.Script.Coverage
import HttpScript.Proofs.Text.LineEnd
import HttpScript.Proofs.Text.Pattern

namespace HttpScript.Script

open Text Pattern

/-! ### The pattern -/

/-- `(.+?)\s*$`, where the dot stands for any character but a line feed. -/
def pathMatches (s : List Char) : List (List Char) :=
  (cuts (seq (one (· != '\n')) (few (one (· != '\n')))).rests s).flatMap fun p =>
    ((many (one isBlank)).rests p.2).flatMap (atEnd p.1)

/-- `@@include\s+` -/
def leadPattern : Pattern :=
  .seq (literal '@' "@include".toList) (run isBlank)

/-- What the pattern takes for the path and for all before it, the preferred match first. -/
def includeMatches (line : List Char) : List IncludeLine :=
  (cuts leadPattern.rests line).flatMap fun p => (pathMatches p.2).map (⟨p.1, ·⟩)

/-! ### Paths -/

variable {c last : Char} {before tail blanks after line : List Char}

/-- Of the places that only blanks follow, the first is the one behind the last other character. -/
theorem head?_flatMap_tails_atEnd {α : Type} {f : List Char → α}
    (hbefore : ∀ c ∈ before.getLast?, isBlank c = false) (htail : AllBlank tail) :
    ((before ++ tail).tails.flatMap fun rest =>
      atEnd (f rest) (rest.dropWhile isBlank)).head? = some (f tail) := by
  induction before with
  | nil =>
      have hfirst : atEnd (f tail) (tail.dropWhile isBlank) = [f tail] :=
        if_pos (List.dropWhile_eq_nil_iff.mpr htail)
      cases tail with
      | nil => rfl
      | cons c tail =>
          rw [List.nil_append, List.tails_cons, List.flatMap_cons, hfirst]
          rfl
  | cons c before ih =>
      have hkept : (c :: before ++ tail).dropWhile isBlank ≠ [] := by
        rw [Ne, List.dropWhile_eq_nil_iff]
        intro hall
        have hmem := List.getLast_mem (List.cons_ne_nil c before)
        have hblank := hbefore _ (List.getLast?_eq_some_getLast (List.cons_ne_nil c before))
        rw [hall _ (List.mem_append_left _ hmem)] at hblank
        cases hblank
      have hfirst :
          atEnd (f (c :: before ++ tail)) ((c :: before ++ tail).dropWhile isBlank) = [] :=
        if_neg hkept
      have hrest : ∀ d ∈ before.getLast?, isBlank d = false := by
        intro d hd
        exact hbefore d (List.mem_getLast?_cons hd)
      rw [List.cons_append, List.tails_cons, List.flatMap_cons, ← List.cons_append, hfirst,
        List.nil_append]
      exact ih hrest

theorem pathMatches_nil : pathMatches [] = [] := by
  simp [pathMatches, cuts]

/-- A path takes its first character whatever it is, and of the others as few as it can. -/
theorem head?_pathMatches (hline : '\n' ∉ c :: (before ++ tail))
    (hbefore : ∀ c ∈ before.getLast?, isBlank c = false) (htail : AllBlank tail) :
    (pathMatches (c :: (before ++ tail))).head? = some (c :: before) := by
  have hchars : ∀ d ∈ c :: (before ++ tail), (d != '\n') = true := by
    intro d hd
    exact bne_iff_ne.mpr (fun heq => hline (heq ▸ hd))
  obtain ⟨hfirst, hothers⟩ := List.forall_mem_cons.mp hchars
  have hblanks : ∀ (path rest : List Char), ((many (one isBlank)).rests rest).flatMap (atEnd path) =
      atEnd path (rest.dropWhile isBlank) := by
    intro path rest
    exact flatMap_rests_many_one (fun _ _ _ => rfl)
  have htake : (c :: (before ++ tail)).take ((c :: (before ++ tail)).length - tail.length) =
      c :: before :=
    take_length_sub (c :: before) tail
  rw [pathMatches, cuts, List.flatMap_map, rests_seq, rests_one_cons, if_pos hfirst,
    List.flatMap_singleton, rests_few_one hothers]
  simp only [hblanks]
  rw [head?_flatMap_tails_atEnd hbefore htail, htake]

/-! ### Lines -/

theorem rests_leadPattern (line : List Char) :
    leadPattern.rests line = (dropLead? includeMark line).toList.flatMap (run isBlank).rests := by
  rw [leadPattern, rests_seq, rests_literal]
  rfl

theorem includeMatches_eq_nil (h : dropLead? includeMark line = none) :
    includeMatches line = [] := by
  rw [includeMatches, cuts, rests_leadPattern, h]
  rfl

/-- Behind the mark the first run takes blanks, as many as it can at first and then fewer. -/
theorem head?_includeMatches_append (after : List Char) :
    (includeMatches (includeMark ++ after)).head? =
      ((run isBlank).rests after).findSome? fun rest =>
        (pathMatches rest).head?.map
          (⟨(includeMark ++ after).take ((includeMark ++ after).length - rest.length), ·⟩) := by
  have hlead : leadPattern.rests (includeMark ++ after) = (run isBlank).rests after := by
    rw [rests_leadPattern, dropLead?_eq_some_iff.mpr rfl, Option.toList_some,
      List.flatMap_singleton]
  rw [includeMatches, cuts, hlead, List.flatMap_map, List.head?_flatMap]
  simp only [List.head?_map]

theorem rests_run_blanks (hc : isBlank c = true) (hblanks : AllBlank blanks)
    (hstop : ∀ c ∈ after.head?, isBlank c = false) :
    (run isBlank).rests (c :: blanks ++ after) = (blanks.tails.map (· ++ after)).reverse := by
  rw [List.cons_append, run, rests_seq, rests_one_cons, if_pos hc, List.flatMap_singleton,
    rests_many_one hblanks hstop]

/-- Of the ends of a text those of its last part are the shortest. -/
theorem exists_reverse_tails_append (s t : List Char) :
    ∃ more, (s ++ t).tails.reverse = t.tails.reverse ++ more := by
  induction s with
  | nil => exact ⟨[], (List.append_nil _).symm⟩
  | cons c s ih =>
      obtain ⟨more, hmore⟩ := ih
      refine ⟨more ++ [c :: (s ++ t)], ?_⟩
      rw [List.cons_append, List.tails_cons, List.reverse_cons, hmore, List.append_assoc]

theorem take_lead (after rest : List Char) :
    (includeMark ++ (after ++ rest)).take ((includeMark ++ (after ++ rest)).length - rest.length) =
      includeMark ++ after := by
  rw [← List.append_assoc, take_length_sub]

theorem IncludeForm.head?_includeMatches {i : IncludeLine} (h : IncludeForm line i)
    (hline : '\n' ∉ line) : (includeMatches line).head? = some i := by
  cases h with
  | @path blanks path tail hne hblanks hpath htrimmed htail =>
      obtain ⟨b, blanks, rfl⟩ := List.exists_cons_of_ne_nil hne
      obtain ⟨c, path, rfl⟩ := List.exists_cons_of_ne_nil hpath
      obtain ⟨hb, hblanks⟩ := List.forall_mem_cons.mp hblanks
      have hfound : (pathMatches (c :: (path ++ tail))).head? = some (c :: path) := by
        apply head?_pathMatches
        · intro hmem
          exact hline (List.mem_append_right _ (List.mem_append_right _ hmem))
        · intro d hd
          exact htrimmed.last d (List.mem_getLast?_cons hd)
        · exact htail
      -- The first run keeps all the blanks, since the path can go on from there.
      obtain ⟨more, hmore⟩ := exists_reverse_tails_append blanks []
      have hmost : blanks.tails.reverse = [] :: more := by
        rwa [List.append_nil] at hmore
      have hstop : ∀ d ∈ (c :: path ++ tail).head?, isBlank d = false := htrimmed.head
      rw [head?_includeMatches_append, rests_run_blanks hb hblanks hstop, ← List.map_reverse, hmost,
        List.map_cons, List.nil_append, List.findSome?_cons, take_lead, List.cons_append, hfound]
      rfl
  | @blankPath blanks last hne hblanks hlast =>
      obtain ⟨b, blanks, rfl⟩ := List.exists_cons_of_ne_nil hne
      obtain ⟨hb, hblanks⟩ := List.forall_mem_cons.mp hblanks
      have hfound : (pathMatches [last]).head? = some [last] := by
        apply @head?_pathMatches last [] []
        · intro hmem
          exact hline (List.mem_append_right _ (List.mem_append_right _ hmem))
        · exact fun _ hd => nomatch hd
        · exact fun _ hd => nomatch hd
      -- There is nothing for the path unless the first run gives a blank back.
      obtain ⟨more, hmore⟩ := exists_reverse_tails_append blanks [last]
      have hall : AllBlank (blanks ++ [last]) :=
        allBlank_append.mpr ⟨hblanks, List.forall_mem_singleton.mpr hlast⟩
      have hrests : (run isBlank).rests (b :: blanks ++ [last]) = [] :: [last] :: more := by
        have hfront := @rests_run_blanks b (blanks ++ [last]) [] hb hall (fun _ hd => nomatch hd)
        have hid : (fun s : List Char => s ++ []) = id := funext List.append_nil
        rwa [hid, List.map_id, List.append_nil, hmore] at hfront
      rw [head?_includeMatches_append, hrests, List.findSome?_cons, pathMatches_nil,
        List.findSome?_cons, take_lead, hfound]
      rfl

/-- A path with blanks at its ends is the last of the blanks behind the mark, and nothing else is
there. -/
theorem IncludeForm.exists_blanks {i : IncludeLine} (h : IncludeForm line i) :
    ∃ blanks tail, line = includeMark ++ (blanks ++ (i.path ++ tail)) ∧
      blanks ≠ [] ∧ AllBlank blanks ∧ i.path ≠ [] ∧ AllBlank tail ∧
      (IsTrimmed i.path ↔ ¬AllBlank (blanks ++ (i.path ++ tail))) ∧
      (AllBlank (blanks ++ (i.path ++ tail)) → ∃ last, i.path = [last] ∧ tail = []) := by
  cases h with
  | @path blanks path tail hne hblanks hpath htrimmed htail =>
      have hnot : ¬AllBlank (blanks ++ (path ++ tail)) := by
        intro hall
        obtain ⟨c, path, rfl⟩ := List.exists_cons_of_ne_nil hpath
        have hblank := hall c (List.mem_append_right _ (List.mem_append_left _ List.mem_cons_self))
        rw [htrimmed.head c rfl] at hblank
        cases hblank
      exact ⟨blanks, tail, rfl, hne, hblanks, hpath, htail, iff_of_true htrimmed hnot,
        fun hall => absurd hall hnot⟩
  | @blankPath blanks last hne hblanks hlast =>
      have hall : AllBlank (blanks ++ ([last] ++ [])) :=
        allBlank_append.mpr ⟨hblanks, List.forall_mem_singleton.mpr hlast⟩
      have hnot : ¬IsTrimmed [last] := by
        intro htrimmed
        have hkept := htrimmed.head last rfl
        rw [hlast] at hkept
        cases hkept
      have hnil : AllBlank [] := fun _ hc => nomatch hc
      exact ⟨blanks, [], rfl, hne, hblanks, List.cons_ne_nil last [], hnil,
        iff_of_false hnot (fun h => h hall), fun _ => ⟨last, rfl, rfl⟩⟩

/-- A line that begins with the mark is an include if a blank follows and then anything at all. -/
theorem exists_includeForm_iff : (∃ i, IncludeForm (includeMark ++ after) i) ↔
    (∃ c ∈ after.head?, isBlank c = true) ∧ 2 ≤ after.length := by
  constructor
  · rintro ⟨i, hi⟩
    obtain ⟨blanks, tail, hline, hne, hblanks, hpath, -⟩ := hi.exists_blanks
    obtain rfl := List.append_cancel_left hline
    obtain ⟨b, blanks, rfl⟩ := List.exists_cons_of_ne_nil hne
    have hlength := List.length_pos_of_ne_nil hpath
    refine ⟨⟨b, rfl, hblanks b List.mem_cons_self⟩, ?_⟩
    simp only [List.length_append, List.length_cons]
    omega
  · rintro ⟨⟨b, hb, hblank⟩, hlength⟩
    obtain ⟨rest, rfl⟩ := List.head?_eq_some_iff.mp hb
    by_cases hall : AllBlank rest
    · induction rest using List.reverseRecOn with
      | nil => simp at hlength
      | append_singleton rest last =>
          obtain ⟨hrest, hlast⟩ := allBlank_append.mp hall
          have hlead : AllBlank (b :: rest) := List.forall_mem_cons.mpr ⟨hblank, hrest⟩
          exact ⟨_, .blankPath (List.cons_ne_nil b rest) hlead
            (hlast last (List.mem_singleton_self last))⟩
    · obtain ⟨before, tail, hrest, hbefore, htail⟩ := exists_eq_append_trim rest
      have hlead : AllBlank (b :: before) := List.forall_mem_cons.mpr ⟨hblank, hbefore⟩
      have hpath : trim rest ≠ [] := fun hnil => hall (allBlank_of_trim_eq_nil hnil)
      have hform :=
        IncludeForm.path (List.cons_ne_nil b before) hlead hpath (isTrimmed_trim rest) htail
      rw [List.cons_append, ← hrest] at hform
      exact ⟨_, hform⟩

theorem head?_includeMatches_eq_none (h : ∀ c ∈ after.head?, isBlank c = false) :
    (includeMatches (includeMark ++ after)).head? = none := by
  have hnone : (run isBlank).rests after = [] := by
    cases after with
    | nil => simp [run]
    | cons c after => simp [run, h c rfl]
  rw [head?_includeMatches_append, hnone]
  rfl

/-- A single blank cannot be both the run's and the path. -/
theorem head?_includeMatches_singleton (hc : isBlank c = true) :
    (includeMatches (includeMark ++ [c])).head? = none := by
  have hrests : (run isBlank).rests [c] = [[]] :=
    @rests_run_blanks c [] [] hc (fun _ hd => nomatch hd) (fun _ hd => nomatch hd)
  rw [head?_includeMatches_append, hrests, List.findSome?_cons, pathMatches_nil]
  rfl

/-- What is read off a line is the match that the pattern prefers. -/
theorem head?_includeMatches (hline : '\n' ∉ line) :
    (includeMatches line).head? = includeLine? line := by
  cases hread : includeLine? line with
  | some i => exact (includeLine?_eq_some_iff.mp hread).head?_includeMatches hline
  | none =>
      cases hlead : dropLead? includeMark line with
      | none =>
          rw [includeMatches_eq_nil hlead]
          rfl
      | some after =>
          obtain rfl := dropLead?_eq_some_iff.mp hlead
          have hno : ¬∃ i, IncludeForm (includeMark ++ after) i :=
            not_exists.mpr (includeLine?_eq_none_iff.mp hread)
          rw [exists_includeForm_iff] at hno
          by_cases hblank : ∃ c ∈ after.head?, isBlank c = true
          · have hshort : ¬2 ≤ after.length := fun h => hno ⟨hblank, h⟩
            obtain ⟨c, hc, hblank⟩ := hblank
            obtain ⟨rest, rfl⟩ := List.head?_eq_some_iff.mp hc
            obtain rfl : rest = [] := by
              apply List.eq_nil_of_length_eq_zero
              rw [List.length_cons] at hshort
              omega
            exact head?_includeMatches_singleton hblank
          · apply head?_includeMatches_eq_none
            intro c hc
            exact Bool.eq_false_iff.mpr (fun hb => hblank ⟨c, hc, hb⟩)

/-! ### In a text -/

/-- The includes of a text are its lines that have the form of one. -/
theorem mem_scan_inclusion_iff {text : String} {d : IncludeDirective} :
    .inclusion d ∈ scan text ↔ ∃ n line i, (lines text.toList)[n]? = some line ∧
      IncludeForm line i ∧ d = ⟨.wholeLine n line, .span n i.lead i.path, .ofList i.path⟩ := by
  constructor
  · intro h
    cases readFrom_of_mem (increasing_numberedLines 0 text.toList) h with
    | @own line _ hmem hreads =>
        rcases ownDirective?_cases hreads with ⟨d', hd', heq⟩ | ⟨-, v, -, heq⟩
        · obtain rfl := Directive.inclusion.inj heq
          obtain ⟨i, hi, heq⟩ := Option.map_eq_some_iff.mp hd'
          exact ⟨line.1, line.2, i, mem_numberedLines_iff.mp hmem, includeLine?_eq_some_iff.mp hi,
            heq.symm⟩
        · cases heq
  · rintro ⟨n, line, i, hline, hform, rfl⟩
    exact mem_directives_of_ownDirective? (mem_numberedLines_iff.mpr hline)
      (isBoundary_of_head? hform.head?_eq) ((ownDirective?_of_form n line).1 i hform)

/-- The includes of a text are what the pattern finds on its lines.  Behind the mark and one or more
blanks there is a path, and then only blanks.  The path is not empty.  It has no blanks at its ends,
unless there are only blanks behind the mark: then it is the last of them.  So a line that begins
with the mark is an include if a blank follows the mark and then any character, blank or not. -/
theorem scan_includes (text : String) :
    (∀ d, .inclusion d ∈ scan text ↔ ∃ n line i, (lines text.toList)[n]? = some line ∧
      (includeMatches line).head? = some i ∧
      d = ⟨.wholeLine n line, .span n i.lead i.path, .ofList i.path⟩) ∧
    (∀ d, .inclusion d ∈ scan text → ∃ blanks tail,
      let after := blanks ++ (d.path.toList ++ tail)
      (lines text.toList)[d.range.start.line]? = some (includeMark ++ after) ∧
      blanks ≠ [] ∧ AllBlank blanks ∧ d.path.toList ≠ [] ∧ AllBlank tail ∧
      (IsTrimmed d.path.toList ↔ ¬AllBlank after) ∧
      (AllBlank after → ∃ last, d.path.toList = [last] ∧ tail = [])) ∧
    ∀ n after, (lines text.toList)[n]? = some (includeMark ++ after) →
      ((∃ d, .inclusion d ∈ scan text ∧ d.range.start.line = n) ↔
        (∃ c ∈ after.head?, isBlank c = true) ∧ 2 ≤ after.length) := by
  refine ⟨?_, ?_, ?_⟩
  · intro d
    rw [mem_scan_inclusion_iff]
    refine exists_congr fun n => exists_congr fun line => exists_congr fun i => ?_
    refine and_congr_right fun hline => and_congr_left fun _ => ?_
    rw [head?_includeMatches (notMem_of_mem_lines (List.mem_of_getElem? hline)),
      includeLine?_eq_some_iff]
  · intro d hd
    obtain ⟨n, line, i, hline, hform, rfl⟩ := mem_scan_inclusion_iff.mp hd
    obtain ⟨blanks, tail, rfl, hparts⟩ := hform.exists_blanks
    refine ⟨blanks, tail, ?_⟩
    simp only [String.toList_ofList]
    exact ⟨hline, hparts⟩
  · intro n after hline
    rw [← exists_includeForm_iff]
    constructor
    · rintro ⟨d, hd, hnumber⟩
      obtain ⟨n', line, i, hline', hform, rfl⟩ := mem_scan_inclusion_iff.mp hd
      obtain rfl : n' = n := hnumber
      rw [hline] at hline'
      obtain rfl := Option.some.inj hline'
      exact ⟨i, hform⟩
    · rintro ⟨i, hform⟩
      exact ⟨_, mem_scan_inclusion_iff.mpr ⟨n, _, i, hline, hform, rfl⟩, rfl⟩

/-- An include, and two lines on which the path is missing. -/
def sparse : String :=
  "@@include \t./users.http \n@@include  \n@@include "

/-- Two blanks make an include, whose path is the second of them, and one does not. -/
theorem scan_includes_sparse :
    (∃ d, .inclusion d ∈ scan sparse ∧ d.range.start.line = 1 ∧ ¬IsTrimmed d.path.toList) ∧
      ¬∃ d, .inclusion d ∈ scan sparse ∧ d.range.start.line = 2 := by
  have htwo : (lines sparse.toList)[1]? = some (includeMark ++ [' ', ' ']) := by decide
  have hone : (lines sparse.toList)[2]? = some (includeMark ++ [' ']) := by decide
  obtain ⟨-, hparts, hlines⟩ := scan_includes sparse
  constructor
  · obtain ⟨d, hd, hnumber⟩ := (hlines 1 [' ', ' '] htwo).mpr ⟨⟨' ', rfl, rfl⟩, Nat.le_refl 2⟩
    refine ⟨d, hd, hnumber, ?_⟩
    obtain ⟨blanks, tail, hline, -, -, -, -, htrimmed, -⟩ := hparts d hd
    rw [hnumber, htwo] at hline
    have hafter := List.append_cancel_left (Option.some.inj hline)
    rw [htrimmed, ← hafter]
    decide
  · intro h
    have hlength := ((hlines 2 [' '] hone).mp h).2
    exact absurd hlength (by decide)

/-- The path of an include can be a blank, on a line that has nothing but blanks behind the mark. -/
theorem not_scan_includes :
    ¬∀ text,
      (∀ d, .inclusion d ∈ scan text → d.path.toList ≠ [] ∧ IsTrimmed d.path.toList) ∧
      ∀ n blanks, (lines text.toList)[n]? = some (includeMark ++ blanks) → AllBlank blanks →
        ¬∃ d, .inclusion d ∈ scan text ∧ d.range.start.line = n := by
  intro h
  have hline : (lines "@@include  ".toList)[0]? = some (includeMark ++ ([' '] ++ [' '])) := by
    decide
  have hblank : AllBlank [' '] := by decide
  have hform :=
    IncludeForm.blankPath (List.cons_ne_nil ' ' []) hblank (hblank ' ' List.mem_cons_self)
  have hmem := mem_scan_inclusion_iff.mpr ⟨0, _, _, hline, hform, rfl⟩
  exact (h "@@include  ").2 0 _ hline (allBlank_append.mpr ⟨hblank, hblank⟩) ⟨_, hmem, rfl⟩

end HttpScript.Script
