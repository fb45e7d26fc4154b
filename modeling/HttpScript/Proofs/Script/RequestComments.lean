/-
Module: HttpScript.Proofs.Script.RequestComments
Purpose: Comments and the request that is read from lines with them.  Without them the same request
  is read but for its body, of which only the comments are gone; and of comments in front of the
  blank line that separates the body any may be left out without a change.
Main exports: withoutComments, bodyLines_withoutComments, BeforeSeparator, bodyLines_append,
  requestOfLines_withoutComments
-/
import HttpScript.Proofs.Script.RequestParts

namespace HttpScript.Script

open Http Text

variable {before after : List NumberedLine}

/-! ### Lines without comments -/

/-- The lines that are no comments. -/
def withoutComments (lines : List NumberedLine) : List NumberedLine :=
  lines.filter (fun l => !isComment l.2)

section Filter

variable {α : Type} {p q : α → Bool}

/-- Where all that a filter takes away belongs to the run, the run ends at the same element. -/
theorem dropWhile_filter (h : ∀ a, p a = false → q a = true) (l : List α) :
    (l.filter p).dropWhile q = (l.dropWhile q).filter p := by
  induction l with
  | nil => rfl
  | cons a l ih =>
      cases hp : p a with
      | false => rw [List.filter_cons_of_neg (by simp [hp]), List.dropWhile_cons_of_pos (h a hp), ih]
      | true =>
          rw [List.filter_cons_of_pos hp]
          cases hq : q a with
          | false =>
              rw [List.dropWhile_cons_of_neg (by simp [hq]), List.dropWhile_cons_of_neg (by simp [hq]),
                List.filter_cons_of_pos hp]
          | true => rw [List.dropWhile_cons_of_pos hq, List.dropWhile_cons_of_pos hq, ih]

theorem takeWhile_filter (h : ∀ a, p a = false → q a = true) (l : List α) :
    (l.filter p).takeWhile q = (l.takeWhile q).filter p := by
  induction l with
  | nil => rfl
  | cons a l ih =>
      cases hp : p a with
      | false =>
          rw [List.filter_cons_of_neg (by simp [hp]), List.takeWhile_cons_of_pos (h a hp),
            List.filter_cons_of_neg (by simp [hp]), ih]
      | true =>
          rw [List.filter_cons_of_pos hp]
          cases hq : q a with
          | false =>
              rw [List.takeWhile_cons_of_neg (by simp [hq]), List.takeWhile_cons_of_neg (by simp [hq])]
              rfl
          | true =>
              rw [List.takeWhile_cons_of_pos hq, List.takeWhile_cons_of_pos hq,
                List.filter_cons_of_pos hp, ih]

end Filter

/-- The line at which a run ends is kept by the filter, so what is behind it is filtered alone. -/
theorem drop_one_filter {l : List NumberedLine} (h : ∀ a ∈ l.head?, isComment a.2 = false) :
    (withoutComments l).drop 1 = withoutComments (l.drop 1) := by
  cases l with
  | nil => rfl
  | cons a l =>
      rw [withoutComments, List.filter_cons_of_pos (by simp [h a rfl])]
      rfl

theorem behindRequestLine_withoutComments (lines : List NumberedLine) :
    behindRequestLine (withoutComments lines) = withoutComments (behindRequestLine lines) := by
  have hskip : ∀ l : NumberedLine, (!isComment l.2) = false → (!hasContent l.2) = true := by
    intro l hl
    rw [hasContent_eq_false_of_isComment (by simpa using hl)]
    rfl
  have hfirst : ∀ l ∈ (lines.dropWhile (fun l => !hasContent l.2)).head?, isComment l.2 = false := by
    intro l hl
    apply isComment_eq_false_of_hasContent
    simpa using head?_dropWhile_eq_false l hl
  rw [behindRequestLine, withoutComments, dropWhile_filter hskip]
  exact drop_one_filter hfirst

theorem requestLineOf?_withoutComments (lines : List NumberedLine) :
    requestLineOf? (withoutComments lines) = requestLineOf? lines := by
  have hboth : ∀ l : NumberedLine,
      decide ((!isComment l.2) = true ∧ hasContent l.2 = true) = hasContent l.2 := by
    intro l
    simp [hasContent]
  rw [requestLineOf?, requestLineOf?, withoutComments, List.find?_filter]
  simp only [hboth]

theorem notBlank_of_isComment (l : NumberedLine) (h : (!isComment l.2) = false) :
    (!isBlankLine l.2) = true := by
  rw [isBlankLine_of_isComment (by simpa using h)]
  rfl

theorem headerLines_withoutComments (lines : List NumberedLine) :
    headerLines (withoutComments lines) = headerLines lines := by
  rw [headerLines, headerLines, behindRequestLine_withoutComments, withoutComments,
    takeWhile_filter notBlank_of_isComment, List.filter_filter]
  simp only [Bool.and_self]

theorem bodyLines_withoutComments (lines : List NumberedLine) :
    bodyLines (withoutComments lines) = withoutComments (bodyLines lines) := by
  have hblank : ∀ l ∈ ((behindRequestLine lines).dropWhile (fun l => !isBlankLine l.2)).head?,
      isComment l.2 = false := by
    intro l hl
    apply isComment_eq_false_of_isBlankLine
    simpa using head?_dropWhile_eq_false l hl
  rw [bodyLines, behindRequestLine_withoutComments, withoutComments,
    dropWhile_filter notBlank_of_isComment]
  exact drop_one_filter hblank

/-! ### Comments in front of the separator -/

/-- No blank line follows a line with content: the lines may stand in front of the blank line that
separates a body. -/
def BeforeSeparator (lines : List NumberedLine) : Prop :=
  lines.Pairwise (fun l l' => hasContent l.2 = true → isBlankLine l'.2 = false)

instance (lines : List NumberedLine) : Decidable (BeforeSeparator lines) :=
  inferInstanceAs (Decidable (lines.Pairwise _))

/-- Of lines in front of the separator it matters only whether the request line is among them. -/
theorem bodyLines_append (h : BeforeSeparator before) :
    bodyLines (before ++ after) =
      if before.any (fun l => hasContent l.2) then
        (after.dropWhile (fun l => !isBlankLine l.2)).drop 1
      else bodyLines after := by
  induction before with
  | nil => rfl
  | cons l before ih =>
      obtain ⟨hfirst, hbefore⟩ := List.pairwise_cons.mp h
      rw [List.cons_append, bodyLines, behindRequestLine_cons, List.any_cons]
      cases hcontent : hasContent l.2 with
      | false => exact ih hbefore
      | true =>
          have hall : ∀ l' ∈ before, (!isBlankLine l'.2) = true := by
            intro l' hl'
            rw [hfirst l' hl' hcontent]
            rfl
          rw [if_pos rfl, Bool.true_or, if_pos rfl, List.dropWhile_append_of_pos hall]

theorem any_hasContent_withoutComments (lines : List NumberedLine) :
    (withoutComments lines).any (fun l => hasContent l.2) = lines.any (fun l => hasContent l.2) := by
  rw [withoutComments, List.any_filter]
  congr 1
  funext l
  rw [hasContent, Bool.and_left_comm, Bool.and_self]

theorem requestOfLines_congr {lines lines' : List NumberedLine} {start : Nat} {filePath : FilePath}
    (hline : requestLineOf? lines = requestLineOf? lines')
    (hheaders : headerLines lines = headerLines lines') (hbody : bodyLines lines = bodyLines lines') :
    requestOfLines lines start filePath = requestOfLines lines' start filePath := by
  rw [requestOfLines_eq, requestOfLines_eq, hline, hheaders, hbody]

/-- Lines in front of the separator may differ in their comments. -/
theorem requestOfLines_append_congr {fewer : List NumberedLine} (hbefore : BeforeSeparator before)
    (hfewer : BeforeSeparator fewer) (hsame : withoutComments fewer = withoutComments before)
    (start : Nat) (filePath : FilePath) :
    requestOfLines (fewer ++ after) start filePath
      = requestOfLines (before ++ after) start filePath := by
  have hall : withoutComments (fewer ++ after) = withoutComments (before ++ after) := by
    rw [withoutComments, withoutComments, List.filter_append, List.filter_append]
    exact congrArg (· ++ withoutComments after) hsame
  apply requestOfLines_congr
  · rw [← requestLineOf?_withoutComments, hall, requestLineOf?_withoutComments]
  · rw [← headerLines_withoutComments, hall, headerLines_withoutComments]
  · rw [bodyLines_append hfewer, bodyLines_append hbefore, ← any_hasContent_withoutComments fewer,
      hsame, any_hasContent_withoutComments]

/-- Reading lines without their comments fails as reading them with the comments does, and gives the
same request otherwise, but for the body, which loses its comments.  In front of the separator any
comments may be left out, and the request is the same. -/
theorem requestOfLines_withoutComments (lines : List NumberedLine) (start : Nat)
    (filePath : FilePath) :
    requestOfLines (withoutComments lines) start filePath =
      (requestOfLines lines start filePath).map (fun r =>
        { r with body := bodyText ((withoutComments (bodyLines lines)).map (·.2)) }) ∧
    ∀ before fewer after, lines = before ++ after → BeforeSeparator before →
      fewer.Sublist before → withoutComments fewer = withoutComments before →
      requestOfLines (fewer ++ after) start filePath = requestOfLines lines start filePath := by
  constructor
  · rw [requestOfLines_eq, requestOfLines_eq, requestLineOf?_withoutComments,
      headerLines_withoutComments, bodyLines_withoutComments]
    cases requestLineOf? lines with
    | none => rfl
    | some first => exact requestOfParts_map_body _
  · intro before fewer after hlines hbefore hfewer hsame
    rw [hlines]
    exact requestOfLines_append_congr hbefore (hbefore.sublist hfewer) hsame start filePath

/-- A request with comments in front of it, among its headers and in its body. -/
def annotated : List NumberedLine :=
  numberedLines 1 "# note\nPOST https://a.example\n// header\nA: 1\n\n# body\nx".toList

/-- The comments in front of the blank line are left out, the one behind it is part of the body. -/
theorem requestOfLines_withoutComments_annotated :
    let before := annotated.take 4
    let fewer := withoutComments before
    let after := annotated.drop 4
    (annotated = before ++ after ∧ BeforeSeparator before ∧ fewer.Sublist before ∧
      withoutComments fewer = withoutComments before) ∧
    (requestOfLines (fewer ++ after) 1 ⟨[]⟩).map (·.body) = .ok (some "# body\nx") ∧
    (requestOfLines (withoutComments annotated) 1 ⟨[]⟩).map (·.body) = .ok (some "x") := by
  intro before fewer after
  have hlines : annotated = before ++ after := by decide
  have hbefore : BeforeSeparator before := by decide
  have hfewer : fewer.Sublist before := by decide
  have hsame : withoutComments fewer = withoutComments before := by decide
  obtain ⟨hwithout, hleft⟩ := requestOfLines_withoutComments annotated 1 ⟨[]⟩
  refine ⟨⟨hlines, hbefore, hfewer, hsame⟩, ?_, ?_⟩
  · rw [hleft before fewer after hlines hbefore hfewer hsame]
    decide
  · rw [hwithout]
    decide

end HttpScript.Script
