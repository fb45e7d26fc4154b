/-
Module: HttpScript.Proofs.Script.RequestParts
Purpose: What of its lines a request is read from: the first line with content, the lines from there
  to the first blank one without the comments, and all lines behind that.  Reading is a function of
  these three parts (`requestOfLines_eq`).
Main exports: requestLineOf?, headerLines, bodyLines, requestOfParts, requestOfLines_eq,
  requestOfParts_eq_ok_iff, requestOfParts_eq_error_iff, requestOfParts_map_body, addHeaderLine,
  requestOfParts_ne_emptyRequest
-/
import HttpScript.Proofs.Script.Placement
import HttpScript.Proofs.Text.Words
import HttpScript.Script.RequestText
import Mathlib.Data.List.TakeDrop

namespace HttpScript.Script

open Http Text

variable {lines : List NumberedLine} {first : NumberedLine}

/-! ### The parts -/

/-- The first line that is neither blank nor a comment. -/
def requestLineOf? (lines : List NumberedLine) : Option NumberedLine :=
  lines.find? (fun l => hasContent l.2)

/-- The lines behind the first one with content. -/
def behindRequestLine (lines : List NumberedLine) : List NumberedLine :=
  (lines.dropWhile (fun l => !hasContent l.2)).drop 1

/-- The lines between the request line and the first blank line behind it, without comments. -/
def headerLines (lines : List NumberedLine) : List NumberedLine :=
  ((behindRequestLine lines).takeWhile (fun l => !isBlankLine l.2)).filter (fun l => !isComment l.2)

/-- The lines behind the first blank line behind the request line; there are none if there is no such
blank line. -/
def bodyLines (lines : List NumberedLine) : List NumberedLine :=
  ((behindRequestLine lines).dropWhile (fun l => !isBlankLine l.2)).drop 1

/-- The request of a request line, header lines and lines of a body. -/
def requestOfParts (first : NumberedLine) (headers body : List NumberedLine)
    (filePath : FilePath) : Except RequestError Request := do
  let line ← requestLine first.2 first.1
  let fields ← headerFields headers
  return {
    id := requestId filePath first.1
    method := line.method
    url := line.url
    httpVersion := line.httpVersion
    headers := fields
    body := bodyText (body.map (·.2))
    lineNumber := first.1
    filePath := filePath }

theorem not_hasContent (line : List Char) :
    (!hasContent line) = (isBlankLine line || isComment line) := by
  simp [hasContent]

theorem requestLineOf?_cons (h : hasContent first.2 = true) :
    requestLineOf? (first :: lines) = some first :=
  List.find?_cons_of_pos h

theorem behindRequestLine_cons (l : NumberedLine) (lines : List NumberedLine) :
    behindRequestLine (l :: lines) = if hasContent l.2 then lines else behindRequestLine lines := by
  rw [behindRequestLine, List.dropWhile_cons]
  cases hasContent l.2 with
  | false => rfl
  | true => rfl

theorem hasContent_eq_false_of_isComment {line : List Char} (h : isComment line = true) :
    hasContent line = false := by
  simp [hasContent, h]

theorem isComment_eq_false_of_hasContent {line : List Char} (h : hasContent line = true) :
    isComment line = false := by
  simpa using (Bool.and_eq_true_iff.mp h).2

theorem isBlankLine_eq_false_of_hasContent {line : List Char} (h : hasContent line = true) :
    isBlankLine line = false := by
  simpa using (Bool.and_eq_true_iff.mp h).1

theorem ne_nil_of_hasContent {line : List Char} (h : hasContent line = true) : line ≠ [] := by
  rintro rfl
  cases h

/-- A request is read from the parts of its lines. -/
theorem requestOfLines_eq (lines : List NumberedLine) (start : Nat) (filePath : FilePath) :
    requestOfLines lines start filePath =
      match requestLineOf? lines with
      | none => .error (.emptyRequest start)
      | some first => requestOfParts first (headerLines lines) (bodyLines lines) filePath := by
  rw [requestOfLines, requestLineOf?, headerLines, bodyLines, behindRequestLine,
    List.find?_eq_head?_dropWhile_not]
  simp only [not_hasContent]
  cases lines.dropWhile (fun l => isBlankLine l.2 || isComment l.2) with
  | nil => rfl
  | cons first rest =>
      simp only [List.head?_cons, List.drop_succ_cons, List.drop_zero,
        List.span_eq_takeWhile_dropWhile]
      rfl

/-! ### Success and failure -/

section Outcome

variable {headers body : List NumberedLine} {filePath : FilePath}

theorem requestOfParts_eq_ok_iff {r : Request} :
    requestOfParts first headers body filePath = .ok r ↔
      ∃ line fields, requestLine first.2 first.1 = .ok line ∧ headerFields headers = .ok fields ∧
        r = { id := requestId filePath first.1
              method := line.method
              url := line.url
              httpVersion := line.httpVersion
              headers := fields
              body := bodyText (body.map (·.2))
              lineNumber := first.1
              filePath := filePath } := by
  rw [requestOfParts]
  cases hline : requestLine first.2 first.1 with
  | error e => simp [bind, Except.bind]
  | ok line =>
      cases hfields : headerFields headers with
      | error e => simp [bind, Except.bind]
      | ok fields => simp [bind, Except.bind, pure, Except.pure, eq_comm]

/-- The request line is judged before the headers. -/
theorem requestOfParts_eq_error_iff {e : RequestError} :
    requestOfParts first headers body filePath = .error e ↔
      requestLine first.2 first.1 = .error e ∨
        ∃ line, requestLine first.2 first.1 = .ok line ∧ headerFields headers = .error e := by
  rw [requestOfParts]
  cases hline : requestLine first.2 first.1 with
  | error e => simp [bind, Except.bind]
  | ok line =>
      cases hfields : headerFields headers with
      | error e => simp [bind, Except.bind]
      | ok fields => simp [bind, Except.bind, pure, Except.pure]

/-- Another body makes a request with another body, and of a failure the same failure. -/
theorem requestOfParts_map_body (body' : List NumberedLine) :
    requestOfParts first headers body' filePath =
      (requestOfParts first headers body filePath).map
        (fun r => { r with body := bodyText (body'.map (·.2)) }) := by
  rw [requestOfParts, requestOfParts]
  cases requestLine first.2 first.1 with
  | error e => rfl
  | ok line =>
      cases headerFields headers with
      | error e => rfl
      | ok fields => rfl

end Outcome

/-! ### Request lines -/

/-- Blanks at the ends of a request line and their number between its words do not matter. -/
theorem requestLine_congr {text text' : List Char} (h : words text = words text') (n : Nat) :
    requestLine text n = requestLine text' n := by
  rw [requestLine, requestLine, h]

theorem requestLine_dropCarriageReturn (text : List Char) (n : Nat) :
    requestLine (dropCarriageReturn text) n = requestLine text n := by
  apply requestLine_congr
  rcases dropCarriageReturn_eq text with heq | heq
  · rw [← heq]
  · nth_rewrite 2 [heq]
    rw [words_concat_blank (by decide)]

theorem checkTarget_ne_emptyRequest (word : List Char) (n m : Nat) :
    checkTarget word n ≠ .error (.emptyRequest m) := by
  unfold checkTarget
  split
  · exact fun h => nomatch h
  · exact fun h => nomatch h

theorem map_checkTarget_ne_emptyRequest {α : Type} (f : String → α) (word : List Char) (n m : Nat) :
    (checkTarget word n).map f ≠ .error (.emptyRequest m) := by
  have htarget := checkTarget_ne_emptyRequest word n m
  cases hword : checkTarget word n with
  | ok target => exact fun h => nomatch h
  | error e =>
      intro h
      obtain rfl := Except.error.inj h
      exact htarget hword

/-- What is wrong with a request line is never that there is none. -/
theorem requestLine_ne_emptyRequest (text : List Char) (n m : Nat) :
    requestLine text n ≠ .error (.emptyRequest m) := by
  unfold requestLine
  dsimp only
  split
  · split
    · exact fun h => nomatch h
    · apply map_checkTarget_ne_emptyRequest
  · split
    · exact fun h => nomatch h
    · split
      · exact fun h => nomatch h
      · apply map_checkTarget_ne_emptyRequest
    · split
      · exact fun h => nomatch h
      · exact fun h => nomatch h

/-! ### Headers -/

/-- Reads one more header line. -/
def addHeaderLine (headers : Dict String) (line : NumberedLine) :
    Except RequestError (Dict String) :=
  if isBlankLine line.2 then .ok headers
  else match headerField? line.2 with
    | some (name, value) => .ok (headers.insert name value)
    | none => .error (.invalidHeader (String.ofList (trim line.2)) line.1)

theorem headerFields_eq (lines : List NumberedLine) :
    headerFields lines = lines.foldlM addHeaderLine {} := rfl

/-- Header lines fail as headers only. -/
theorem exists_invalidHeader_of_foldlM {headers : Dict String} {e : RequestError}
    (h : lines.foldlM addHeaderLine headers = .error e) :
    ∃ text n, e = .invalidHeader text n := by
  induction lines generalizing headers with
  | nil => cases h
  | cons line lines ih =>
      rw [List.foldlM_cons] at h
      cases hline : addHeaderLine headers line with
      | ok headers' =>
          rw [hline] at h
          exact ih h
      | error e' =>
          rw [hline] at h
          obtain rfl := Except.error.inj h
          unfold addHeaderLine at hline
          split at hline
          · cases hline
          · split at hline
            · cases hline
            · exact ⟨_, _, (Except.error.inj hline).symm⟩

/-- Where there is a request line, that there is none is not what is found wrong. -/
theorem requestOfParts_ne_emptyRequest (first : NumberedLine) (headers body : List NumberedLine)
    (filePath : FilePath) (n : Nat) :
    requestOfParts first headers body filePath ≠ .error (.emptyRequest n) := by
  intro h
  rcases requestOfParts_eq_error_iff.mp h with hline | ⟨line, -, hheaders⟩
  · exact requestLine_ne_emptyRequest first.2 first.1 n hline
  · obtain ⟨text, m, heq⟩ := exists_invalidHeader_of_foldlM hheaders
    cases heq

end HttpScript.Script
