/-
Module: HttpScript.Proofs.Script.RequestWriting
Purpose: Requests that are written down and read back.  A request line of a method, a target and
  perhaps a version, a line for every header, and behind an empty line the body: read back they are
  the same request, whichever line end is written.
Main exports: VersionForm, isVersion_eq_true_iff, HeaderForm, BodyForm, WrittenRequest,
  WrittenRequest.Writable, requestOfLines_append, headerFields_headerTexts,
  WrittenRequest.Writable.lines_text, WrittenRequest.requestOfText_text
-/
import HttpScript.Proofs.Script.RequestParts
import HttpScript.Proofs.Text.LineEnd

namespace HttpScript.Http

theorem Method.not_isBlank_name (m : Method) : ∀ c ∈ m.name.toList, Text.isBlank c = false := by
  apply Text.not_isBlank_of_any_eq_false
  cases m <;> decide

end HttpScript.Http

namespace HttpScript.Script

open Http Text

/-! ### Versions -/

/-- `HTTP/`, digits, and perhaps a point and more digits. -/
inductive VersionForm : List Char → Prop where
  | whole {digits : List Char} (digits_ne : digits ≠ [])
      (digits_digits : ∀ c ∈ digits, isDigitChar c = true) :
      VersionForm ("HTTP/".toList ++ digits)
  | parts {digits more : List Char} (digits_ne : digits ≠ [])
      (digits_digits : ∀ c ∈ digits, isDigitChar c = true) (more_ne : more ≠ [])
      (more_digits : ∀ c ∈ more, isDigitChar c = true) :
      VersionForm ("HTTP/".toList ++ (digits ++ '.' :: more))

theorem VersionForm.of_isVersion {word : List Char} (h : isVersion word = true) :
    VersionForm word := by
  unfold isVersion at h
  split at h
  next number hnumber =>
    obtain rfl := dropLead?_eq_some_iff.mp hnumber
    have hsplit := List.takeWhile_append_dropWhile (p := isDigitChar) (l := number)
    have hdigits : ∀ c ∈ number.takeWhile isDigitChar, isDigitChar c = true :=
      fun c hc => List.mem_takeWhile_imp hc
    unfold isVersionNumber at h
    simp only at h
    split at h
    next hrest =>
      rw [hrest, List.append_nil] at hsplit
      have hform := VersionForm.whole (by simpa using h) hdigits
      rwa [hsplit] at hform
    next point more hrest =>
      simp only [Bool.and_eq_true, Bool.not_eq_true', List.isEmpty_eq_false_iff, beq_iff_eq,
        List.all_eq_true] at h
      obtain ⟨⟨⟨hne, rfl⟩, hmoreNe⟩, hmore⟩ := h
      have hform := VersionForm.parts hne hdigits hmoreNe hmore
      rwa [← hrest, hsplit] at hform
  next => cases h

theorem VersionForm.isVersion_eq {word : List Char} (h : VersionForm word) :
    isVersion word = true := by
  cases h with
  | @whole digits hne hdigits =>
      simp only [isVersion, dropLead?_eq_some_iff.mpr rfl, isVersionNumber,
        List.takeWhile_eq_self_iff.mpr hdigits, List.dropWhile_eq_nil_iff.mpr hdigits]
      simpa using hne
  | @parts digits more hne hdigits hmoreNe hmore =>
      have hstop : ∀ c ∈ ('.' :: more).head?, isDigitChar c = false := by
        intro c hc
        obtain rfl := Option.some.inj hc
        decide
      simp only [isVersion, dropLead?_eq_some_iff.mpr rfl, isVersionNumber,
        takeWhile_append_of_stop hdigits hstop, dropWhile_append_of_stop hdigits hstop]
      simpa [hne, hmoreNe] using hmore

/-- Versions are exactly the words of their form. -/
theorem isVersion_eq_true_iff {word : List Char} : isVersion word = true ↔ VersionForm word :=
  ⟨.of_isVersion, VersionForm.isVersion_eq⟩

instance (word : List Char) : Decidable (VersionForm word) :=
  decidable_of_iff _ isVersion_eq_true_iff

theorem VersionForm.not_isBlank {word : List Char} (h : VersionForm word) :
    ∀ c ∈ word, isBlank c = false := by
  have hlead : ∀ c ∈ "HTTP/".toList, isBlank c = false :=
    not_isBlank_of_any_eq_false (by decide)
  cases h with
  | whole _ hdigits =>
      rw [List.forall_mem_append]
      exact ⟨hlead, fun c hc => not_isBlank_of_isDigitChar (hdigits c hc)⟩
  | parts _ hdigits _ hmore =>
      rw [List.forall_mem_append, List.forall_mem_append, List.forall_mem_cons]
      exact ⟨hlead, fun c hc => not_isBlank_of_isDigitChar (hdigits c hc), by decide,
        fun c hc => not_isBlank_of_isDigitChar (hmore c hc)⟩

/-! ### Lines with content -/

theorem isBlank_lineFeed : isBlank '\n' = true := by decide

theorem isBlank_carriageReturn : isBlank '\r' = true := by decide

/-- What ends in front of a character stands in front of the first such character. -/
theorem prefix_of_prefix_append_cons {mark word after : List Char} {c : Char}
    (h : mark <+: word ++ c :: after) (hmark : c ∉ mark) : mark <+: word := by
  rcases List.prefix_or_prefix_of_prefix h (List.prefix_append word (c :: after)) with h' | h'
  · exact h'
  · obtain ⟨more, rfl⟩ := h'
    cases more with
    | nil => rw [List.append_nil]
    | cons d more =>
        obtain ⟨tail, htail⟩ := h
        rw [List.append_assoc, List.append_cancel_left_eq, List.cons_append] at htail
        obtain rfl := List.head_eq_of_cons_eq htail
        simp at hmark

/-- A line whose first word begins with no blank and no mark of a comment has content. -/
theorem hasContent_append_cons {word after : List Char} {c : Char} (hne : word ≠ [])
    (hhead : ∀ d ∈ word.head?, isBlank d = false) (hhash : ¬['#'] <+: word)
    (hslashes : ¬['/', '/'] <+: word) (hc : c ∉ ['#', '/']) :
    hasContent (word ++ c :: after) = true := by
  have hlineHead : ∀ d ∈ (word ++ c :: after).head?, isBlank d = false := by
    rwa [List.head?_append_of_ne_nil _ hne]
  have hblank : isBlankLine (word ++ c :: after) = false :=
    isBlankLine_eq_false (List.append_ne_nil_of_left_ne_nil hne _) hlineHead
  have hstart : trimLeft (word ++ c :: after) = word ++ c :: after :=
    dropWhile_append_of_stop (List.forall_mem_nil _) hlineHead
  have hcomment : isComment (word ++ c :: after) = false := by
    simp only [List.mem_cons, List.not_mem_nil, or_false, not_or] at hc
    unfold isComment
    rw [hstart]
    split
    next rest hmark =>
      exact absurd (prefix_of_prefix_append_cons ⟨rest, hmark.symm⟩ (by simp [hc])) hhash
    next rest hmark =>
      exact absurd (prefix_of_prefix_append_cons ⟨rest, hmark.symm⟩ (by simp [hc])) hslashes
    next => rfl
  rw [hasContent, hblank, hcomment]
  rfl

/-! ### Request lines -/

/-- An address or what begins with a reference, without blanks. -/
structure TargetForm (word : List Char) : Prop where
  lead : ∃ lead ∈ targetLeads, lead <+: word
  not_blank : ∀ c ∈ word, isBlank c = false

theorem isTarget_eq_true_iff {word : List Char} :
    isTarget word = true ↔ ∃ lead ∈ targetLeads, lead <+: word := by
  simp only [isTarget, List.any_eq_true, List.isPrefixOf_iff_prefix]

theorem TargetForm.isTarget_eq {word : List Char} (h : TargetForm word) : isTarget word = true :=
  isTarget_eq_true_iff.mpr h.lead

instance (word : List Char) : Decidable (TargetForm word) :=
  decidable_of_iff (isTarget word = true ∧ word.any isBlank = false)
    ⟨fun h => ⟨isTarget_eq_true_iff.mp h.1, not_isBlank_of_any_eq_false h.2⟩,
      fun h => ⟨h.isTarget_eq, by simpa using h.not_blank⟩⟩

theorem TargetForm.ne_nil {word : List Char} (h : TargetForm word) : word ≠ [] := by
  intro hnil
  have htarget := h.isTarget_eq
  rw [hnil] at htarget
  cases htarget

/-- The words of a request line. -/
def lineWords (m : Method) (url : List Char) (version : Option (List Char)) : List (List Char) :=
  m.name.toList :: url :: version.toList

theorem lineWords_words {m : Method} {url : List Char} {version : Option (List Char)}
    (hurl : TargetForm url) (hversion : ∀ v ∈ version, VersionForm v) :
    ∀ word ∈ lineWords m url version, word ≠ [] ∧ ∀ c ∈ word, isBlank c = false := by
  rw [lineWords, List.forall_mem_cons, List.forall_mem_cons]
  refine ⟨⟨m.name_ne_nil, m.not_isBlank_name⟩, ⟨hurl.ne_nil, hurl.not_blank⟩, ?_⟩
  intro word hword
  have hform := hversion word (Option.mem_toList.mp hword)
  refine ⟨?_, hform.not_isBlank⟩
  cases hform with
  | whole => exact List.cons_ne_nil _ _
  | parts => exact List.cons_ne_nil _ _

/-- The text of a request line. -/
def requestLineText (m : Method) (url : List Char) (version : Option (List Char)) : List Char :=
  [' '].intercalate (lineWords m url version)

section RequestLine

variable {m : Method} {url : List Char} {version : Option (List Char)}

theorem hasContent_requestLineText : hasContent (requestLineText m url version) = true := by
  have hmarks : ¬['#'] <+: m.name.toList ∧ ¬['/', '/'] <+: m.name.toList := by
    cases m <;> decide
  have hhead := (isTrimmed_of_forall_not_blank m.not_isBlank_name).head
  rw [requestLineText, lineWords, List.intercalate_cons_cons, List.append_assoc]
  apply hasContent_append_cons m.name_ne_nil hhead hmarks.1 hmarks.2
  decide

theorem notMem_requestLineText (hurl : TargetForm url) (hversion : ∀ v ∈ version, VersionForm v) :
    '\n' ∉ requestLineText m url version := by
  apply notMem_intercalate (by decide)
  intro word hword hmem
  have hblank := (lineWords_words hurl hversion word hword).2 '\n' hmem
  exact Bool.false_ne_true (hblank.symm.trans isBlank_lineFeed)

theorem getLast?_requestLineText_ne (hurl : TargetForm url)
    (hversion : ∀ v ∈ version, VersionForm v) :
    (requestLineText m url version).getLast? ≠ some '\r' := by
  apply IsTrimmed.getLast?_ne ?_ isBlank_carriageReturn
  exact isTrimmed_intercalate (lineWords_words hurl hversion)

theorem requestLine_requestLineText (hurl : TargetForm url)
    (hversion : ∀ v ∈ version, VersionForm v) (n : Nat) :
    requestLine (requestLineText m url version) n =
      .ok ⟨m, String.ofList url, version.map String.ofList⟩ := by
  have hletters : m.name.toList.all Char.isAlpha = true := by
    cases m <;> decide
  have hshape : shape? (lineWords m url version) = some (m.name.toList, url, version) := by
    cases version with
    | none => simp only [lineWords, Option.toList, shape?, hletters, if_true]
    | some v =>
        simp only [lineWords, Option.toList, shape?, hletters, (hversion v rfl).isVersion_eq,
          Bool.and_self, if_true]
  rw [requestLine, requestLineText, words_intercalate (lineWords_words hurl hversion), hshape]
  simp only [Method.parse?_name, checkTarget, hurl.isTarget_eq, if_true]
  rfl

end RequestLine

/-! ### Headers -/

/-- A name and a value that stand on one line, the name in front of the first colon.  In front of
the name there is nothing that makes the line a comment. -/
structure HeaderForm (name value : List Char) : Prop where
  name_ne : name ≠ []
  name_trimmed : IsTrimmed name
  name_no_colon : ':' ∉ name
  name_line : '\n' ∉ name
  name_no_hash : ¬['#'] <+: name
  name_no_slashes : ¬['/', '/'] <+: name
  value_trimmed : IsTrimmed value
  value_line : '\n' ∉ value

instance (name value : List Char) : Decidable (HeaderForm name value) :=
  decidable_of_iff (name ≠ [] ∧ IsTrimmed name ∧ (':' ∉ name ∧ '\n' ∉ name) ∧
      (¬['#'] <+: name ∧ ¬['/', '/'] <+: name) ∧ IsTrimmed value ∧ '\n' ∉ value)
    ⟨fun ⟨hne, htrimmed, hname, hmarks, hvalue, hline⟩ =>
        ⟨hne, htrimmed, hname.1, hname.2, hmarks.1, hmarks.2, hvalue, hline⟩,
      fun h => ⟨h.name_ne, h.name_trimmed, ⟨h.name_no_colon, h.name_line⟩,
        ⟨h.name_no_hash, h.name_no_slashes⟩, h.value_trimmed, h.value_line⟩⟩

/-- The line of a header. -/
def headerText (field : String × String) : List Char :=
  field.1.toList ++ ':' :: ' ' :: field.2.toList

section Header

variable {field : String × String}

/-- A header's line ends with the blank in front of the value or with the value. -/
theorem getLast?_headerText (field : String × String) :
    ∀ c ∈ (headerText field).getLast?, c = ' ' ∨ c ∈ field.2.toList.getLast? := by
  intro c hc
  rw [headerText, List.getLast?_append_cons, List.getLast?_cons_cons, List.getLast?_cons] at hc
  obtain rfl := Option.some.inj hc
  cases field.2.toList.getLast? with
  | none => exact .inl rfl
  | some last => exact .inr rfl

/-- The blanks at the end of a header without a value are trimmed off with its line. -/
theorem exists_trim_headerText (h : HeaderForm field.1.toList field.2.toList) :
    ∃ after, trim (headerText field) = field.1.toList ++ ':' :: after ∧
      trim after = field.2.toList := by
  by_cases hvalue : field.2.toList = []
  · have hname : IsTrimmed (field.1.toList ++ [':']) := by
      apply isTrimmed_append h.name_ne (List.cons_ne_nil _ _) h.name_trimmed.head
      intro c hc
      obtain rfl := Option.some.inj hc
      decide
    have htrim : trim ([] ++ ((field.1.toList ++ [':']) ++ [' '])) = field.1.toList ++ [':'] :=
      trim_append (List.forall_mem_nil _) hname (by decide)
    refine ⟨[], ?_, hvalue.symm⟩
    rw [headerText, hvalue, ← htrim]
    simp
  · have hline : IsTrimmed (headerText field) := by
      have hsplit : headerText field = (field.1.toList ++ [':', ' ']) ++ field.2.toList := by
        simp [headerText]
      rw [hsplit]
      apply isTrimmed_append (by simp) hvalue ?_ h.value_trimmed.last
      rw [List.head?_append_of_ne_nil _ h.name_ne]
      exact h.name_trimmed.head
    refine ⟨' ' :: field.2.toList, trim_of_isTrimmed hline, ?_⟩
    have htrim : trim ([' '] ++ (field.2.toList ++ [])) = field.2.toList :=
      trim_append (by decide) h.value_trimmed (List.forall_mem_nil _)
    rwa [List.append_nil] at htrim

theorem headerField?_headerText (h : HeaderForm field.1.toList field.2.toList) :
    headerField? (headerText field) = some field := by
  obtain ⟨after, htrim, hvalue⟩ := exists_trim_headerText h
  have hname : ∀ c ∈ field.1.toList, decide (c ≠ ':') = true := by
    intro c hc
    rw [decide_eq_true_eq]
    exact ne_of_mem_of_not_mem hc h.name_no_colon
  have hcolon : ∀ c ∈ (':' :: after).head?, decide (c ≠ ':') = false := by
    intro c hc
    obtain rfl := Option.some.inj hc
    decide
  rw [headerField?, htrim, List.span_eq_takeWhile_dropWhile, takeWhile_append_of_stop hname hcolon,
    dropWhile_append_of_stop hname hcolon]
  simp only [trim_of_isTrimmed h.name_trimmed, List.isEmpty_iff, if_neg h.name_ne, hvalue,
    String.ofList_toList]

theorem hasContent_headerText (h : HeaderForm field.1.toList field.2.toList) :
    hasContent (headerText field) = true := by
  apply hasContent_append_cons h.name_ne h.name_trimmed.head h.name_no_hash h.name_no_slashes
  decide

/-- No carriage return is at the end of a header's line. -/
theorem getLast?_headerText_ne (h : HeaderForm field.1.toList field.2.toList) :
    (headerText field).getLast? ≠ some '\r' := by
  intro hreturn
  rcases getLast?_headerText field '\r' hreturn with heq | hlast
  · exact absurd heq (by decide)
  · exact h.value_trimmed.getLast?_ne isBlank_carriageReturn hlast

theorem notMem_headerText (h : HeaderForm field.1.toList field.2.toList) :
    '\n' ∉ headerText field := by
  simp [headerText, h.name_line, h.value_line]

end Header

/-- Header lines are read in their order. -/
theorem foldlM_headerTexts {fields : List (String × String)}
    (h : ∀ field ∈ fields, HeaderForm field.1.toList field.2.toList) (headers : Dict String)
    (n : Nat) :
    (numbered n (fields.map headerText)).foldlM addHeaderLine headers =
      .ok (fields.foldl (fun d b => d.insert b.1 b.2) headers) := by
  induction fields generalizing headers n with
  | nil => rfl
  | cons field fields ih =>
      obtain ⟨hfield, hfields⟩ := List.forall_mem_cons.mp h
      have hadd : addHeaderLine headers (n, headerText field) =
          .ok (headers.insert field.1 field.2) := by
        simp [addHeaderLine, isBlankLine_eq_false_of_hasContent (hasContent_headerText hfield),
          headerField?_headerText hfield]
      rw [List.map_cons, numbered_cons, List.foldlM_cons, hadd]
      exact ih hfields (headers.insert field.1 field.2) (n + 1)

theorem headerFields_headerTexts {fields : List (String × String)}
    (h : ∀ field ∈ fields, HeaderForm field.1.toList field.2.toList) (n : Nat) :
    headerFields (numbered n (fields.map headerText)) = .ok (.ofList fields) := by
  rw [headerFields_eq]
  exact foldlM_headerTexts h {} n

/-! ### Bodies -/

/-- A body with something in it, with line feeds only for line ends and none at its end. -/
structure BodyForm (body : List Char) : Prop where
  not_blank : isBlankLine body = false
  no_pair : ¬['\r', '\n'] <:+: body
  last : body.getLast? ≠ some '\n'

instance (body : List Char) : Decidable (BodyForm body) :=
  decidable_of_iff (isBlankLine body = false ∧ ¬['\r', '\n'] <:+: body ∧
      body.getLast? ≠ some '\n')
    ⟨fun h => ⟨h.1, h.2.1, h.2.2⟩, fun h => ⟨h.not_blank, h.no_pair, h.last⟩⟩

theorem bodyText_splitOn {body : List Char} (h : BodyForm body) :
    bodyText (body.splitOn '\n') = some (String.ofList body) := by
  rw [bodyText, joinLines_splitOn, h.not_blank]
  rfl

theorem endsPlainly_splitOn {body : List Char} (h : BodyForm body) :
    EndsPlainly (body.splitOn '\n') := by
  apply endsPlainly_of_joinLines
  · rw [joinLines_splitOn]
    intro hnil
    have hblank := h.not_blank
    rw [hnil] at hblank
    cases hblank
  · rw [joinLines_splitOn]
    exact h.last
  · rw [joinLines_splitOn]
    exact h.no_pair

/-! ### Whole requests -/

/-- A request line is followed by headers, and these by nothing or by a blank line and a body. -/
theorem requestOfLines_append {first : NumberedLine} {headers back : List NumberedLine}
    (hfirst : hasContent first.2 = true) (hheaders : ∀ l ∈ headers, hasContent l.2 = true)
    (hback : ∀ l ∈ back.head?, isBlankLine l.2 = true) (start : Nat) (filePath : FilePath) :
    requestOfLines (first :: (headers ++ back)) start filePath =
      requestOfParts first headers (back.drop 1) filePath := by
  have hbehind : behindRequestLine (first :: (headers ++ back)) = headers ++ back := by
    rw [behindRequestLine_cons, if_pos hfirst]
  have hrun : ∀ l ∈ headers, (!isBlankLine l.2) = true := by
    intro l hl
    rw [isBlankLine_eq_false_of_hasContent (hheaders l hl)]
    rfl
  have hstop : ∀ l ∈ back.head?, (!isBlankLine l.2) = false := by
    intro l hl
    rw [hback l hl]
    rfl
  have hkept : headers.filter (fun l => !isComment l.2) = headers := by
    rw [List.filter_eq_self]
    intro l hl
    rw [isComment_eq_false_of_hasContent (hheaders l hl)]
    rfl
  rw [requestOfLines_eq, requestLineOf?_cons hfirst, headerLines, bodyLines, hbehind,
    takeWhile_append_of_stop hrun hstop, dropWhile_append_of_stop hrun hstop, hkept]

/-- A request to be written down. -/
structure WrittenRequest where
  method : Method
  url : String
  httpVersion : Option String
  headers : List (String × String)
  body : Option String
deriving Repr, DecidableEq

namespace WrittenRequest

/-- What can be read back as it was written. -/
structure Writable (r : WrittenRequest) : Prop where
  target : TargetForm r.url.toList
  version : ∀ v ∈ r.httpVersion, VersionForm v.toList
  names_nodup : (r.headers.map (·.1)).Nodup
  headers : ∀ field ∈ r.headers, HeaderForm field.1.toList field.2.toList
  body : ∀ body ∈ r.body, BodyForm body.toList

instance (r : WrittenRequest) : Decidable r.Writable :=
  decidable_of_iff (TargetForm r.url.toList ∧ (∀ v ∈ r.httpVersion, VersionForm v.toList) ∧
      (r.headers.map (·.1)).Nodup ∧
      (∀ field ∈ r.headers, HeaderForm field.1.toList field.2.toList) ∧
      ∀ body ∈ r.body, BodyForm body.toList)
    ⟨fun ⟨htarget, hversion, hnames, hheaders, hbody⟩ =>
        ⟨htarget, hversion, hnames, hheaders, hbody⟩,
      fun h => ⟨h.target, h.version, h.names_nodup, h.headers, h.body⟩⟩

/-- The request line. -/
def firstText (r : WrittenRequest) : List Char :=
  requestLineText r.method r.url.toList (r.httpVersion.map String.toList)

/-- The text of a request.  An empty line stands in front of the body. -/
def text (r : WrittenRequest) : List Char :=
  joinLines (r.firstText :: (r.headers.map headerText ++
    match r.body with
    | none => []
    | some body => [[], body.toList]))

/-- The request that was written, as one of a document. -/
def request (r : WrittenRequest) (filePath : FilePath) : Request where
  id := requestId filePath 1
  method := r.method
  url := r.url
  httpVersion := r.httpVersion
  headers := .ofList r.headers
  body := r.body
  lineNumber := 1
  filePath := filePath

/-! ### The lines of a written request -/

/-- The empty line and the lines of the body. -/
def bodyTexts (r : WrittenRequest) : List (List Char) :=
  match r.body with
  | none => []
  | some body => [] :: body.toList.splitOn '\n'

def lineTexts (r : WrittenRequest) : List (List Char) :=
  r.firstText :: (r.headers.map headerText ++ r.bodyTexts)

variable {r : WrittenRequest}

theorem text_eq (r : WrittenRequest) : r.text = joinLines r.lineTexts := by
  rw [text, lineTexts, bodyTexts]
  cases r.body with
  | none => rfl
  | some body =>
      have hjoin := joinLines_append_splitOn (r.firstText :: r.headers.map headerText ++ [[]])
        body.toList
      rw [List.append_assoc, List.append_assoc] at hjoin
      exact hjoin.symm

theorem Writable.version_form (h : r.Writable) :
    ∀ v ∈ r.httpVersion.map String.toList, VersionForm v := by
  intro v hv
  obtain ⟨version, hversion, rfl⟩ := Option.map_eq_some_iff.mp hv
  exact h.version version hversion

theorem Writable.notMem_lineTexts (h : r.Writable) : ∀ line ∈ r.lineTexts, '\n' ∉ line := by
  have hbody : ∀ line ∈ r.bodyTexts, '\n' ∉ line := by
    rw [bodyTexts]
    cases r.body with
    | none => exact List.forall_mem_nil _
    | some body =>
        rw [List.forall_mem_cons]
        exact ⟨List.not_mem_nil, fun _ hpart => notMem_of_mem_splitOn hpart⟩
  rw [lineTexts, List.forall_mem_cons, List.forall_mem_append, List.forall_mem_map]
  exact ⟨notMem_requestLineText h.target h.version_form,
    fun field hfield => notMem_headerText (h.headers field hfield), hbody⟩

theorem Writable.endsPlainly (h : r.Writable) : EndsPlainly r.lineTexts := by
  have hbody : EndsPlainly r.bodyTexts := by
    rw [bodyTexts]
    cases hr : r.body with
    | none => trivial
    | some body =>
        apply EndsPlainly.cons (List.splitOn_ne_nil '\n' body.toList)
        · decide
        · exact endsPlainly_splitOn (h.body body hr)
  rw [lineTexts, ← List.cons_append]
  apply EndsPlainly.append ?_ hbody
  rw [List.forall_mem_cons, List.forall_mem_map]
  constructor
  · refine ⟨?_, getLast?_requestLineText_ne h.target h.version_form⟩
    exact ne_nil_of_hasContent hasContent_requestLineText
  · intro field hfield
    refine ⟨?_, getLast?_headerText_ne (h.headers field hfield)⟩
    exact ne_nil_of_hasContent (hasContent_headerText (h.headers field hfield))

/-- With either line end the text is cut into the lines it was written in. -/
theorem Writable.lines_text (h : r.Writable) :
    lines r.text = r.lineTexts ∧ lines (withCarriageReturns r.text) = r.lineTexts := by
  rw [text_eq]
  exact lines_joinLines_of_endsPlainly (List.cons_ne_nil _ _) h.notMem_lineTexts h.endsPlainly

theorem Writable.requestLine_eq (h : r.Writable) :
    requestLine r.firstText 1 = .ok ⟨r.method, r.url, r.httpVersion⟩ := by
  have hversion : (r.httpVersion.map String.toList).map String.ofList = r.httpVersion := by
    cases r.httpVersion with
    | none => rfl
    | some version => simp
  rw [firstText, requestLine_requestLineText h.target h.version_form, String.ofList_toList,
    hversion]

theorem Writable.bodyText_eq (h : r.Writable) : bodyText (r.bodyTexts.drop 1) = r.body := by
  rw [bodyTexts]
  cases hr : r.body with
  | none => rfl
  | some body =>
      have hbody := bodyText_splitOn (h.body body hr)
      rwa [String.ofList_toList] at hbody

/-- The request is read from the lines it was written in. -/
theorem Writable.requestOfText_eq (h : r.Writable) {text : List Char}
    (hlines : Text.lines text = r.lineTexts) (filePath : FilePath) :
    requestOfText (String.ofList text) filePath = .ok (r.request filePath) := by
  have hheaders : ∀ l ∈ numbered 2 (r.headers.map headerText), hasContent l.2 = true := by
    intro l hl
    have hline : l.2 ∈ r.headers.map headerText := by
      rw [← map_snd_numbered 2 (r.headers.map headerText)]
      exact List.mem_map_of_mem hl
    obtain ⟨field, hfield, heq⟩ := List.mem_map.mp hline
    rw [← heq]
    exact hasContent_headerText (h.headers field hfield)
  have hback : ∀ n, ∀ l ∈ (numbered n r.bodyTexts).head?, isBlankLine l.2 = true := by
    intro n
    rw [bodyTexts]
    cases r.body with
    | none => exact fun l hl => nomatch hl
    | some body =>
        intro l hl
        obtain rfl := Option.some.inj hl
        rfl
  have hbody : ∀ n, bodyText (((numbered n r.bodyTexts).drop 1).map (·.2)) = r.body := by
    intro n
    rw [List.map_drop, map_snd_numbered, h.bodyText_eq]
  rw [requestOfText, String.toList_ofList, numberedLines_eq, hlines, lineTexts, numbered_cons,
    numbered_append, requestOfLines_append hasContent_requestLineText hheaders (hback _)]
  apply requestOfParts_eq_ok_iff.mpr
  refine ⟨_, _, h.requestLine_eq, headerFields_headerTexts h.headers 2, ?_⟩
  rw [hbody]
  rfl

/-- A request that was written down is read back, with either line end, and its headers are those
that were written. -/
theorem requestOfText_text (r : WrittenRequest) (h : r.Writable) (filePath : FilePath) :
    (r.request filePath).headers.entries.Perm r.headers ∧
    requestOfText (String.ofList r.text) filePath = .ok (r.request filePath) ∧
    requestOfText (String.ofList (withCarriageReturns r.text)) filePath
      = .ok (r.request filePath) := by
  obtain ⟨hlines, hreturned⟩ := h.lines_text
  refine ⟨Dict.entries_ofList_perm h.names_nodup, ?_, ?_⟩
  · exact h.requestOfText_eq hlines filePath
  · exact h.requestOfText_eq hreturned filePath

/-- A request with colons in a value, a header without a value, and a body that has blank lines, a
comment and a header. -/
def misleading : WrittenRequest where
  method := .patch
  url := "\x7b\x7bhost\x7d\x7d/a"
  httpVersion := some "HTTP/1.1"
  headers := [("X-Time", "10:30 #1"), ("/", "")]
  body := some "\n# kept\nA: 1\n\nlast\r"

theorem requestOfText_text_misleading :
    misleading.Writable ∧
    (misleading.request ⟨[]⟩).headers.entries.Perm misleading.headers ∧
    requestOfText ("PATCH \x7b\x7bhost\x7d\x7d/a HTTP/1.1\nX-Time: 10:30 #1\n/: \n\n" ++
      "\n# kept\nA: 1\n\nlast\r") ⟨[]⟩ = .ok (misleading.request ⟨[]⟩) ∧
    requestOfText ("PATCH \x7b\x7bhost\x7d\x7d/a HTTP/1.1\r\nX-Time: 10:30 #1\r\n/: \r\n\r\n" ++
      "\r\n# kept\r\nA: 1\r\n\r\nlast\r") ⟨[]⟩ = .ok (misleading.request ⟨[]⟩) := by
  have hwritable : misleading.Writable := by decide
  obtain ⟨hheaders, htext, hreturned⟩ := requestOfText_text misleading hwritable ⟨[]⟩
  exact ⟨hwritable, hheaders, htext, hreturned⟩

end WrittenRequest

end HttpScript.Script
