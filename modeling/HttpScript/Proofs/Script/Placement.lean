/-
Module: HttpScript.Proofs.Script.Placement
Purpose: Where the directives of a script stand.  Each takes whole lines of its own, in the order of
  the lines; a request reaches from one line with content to another, across no boundary, and its
  text is what is left of these lines without the comments.
Main exports: Directive.range, hasContent, RequestBlock.Spans, block?_spans,
  ReadFrom, readFrom_of_mem, pairwise_directives, Directive.PlacedIn, scan_placed
-/
import HttpScript.Proofs.Script.Numbering
import HttpScript.Proofs.Script.Stretch
import HttpScript.Proofs.Text.CodeUnit

namespace HttpScript.Script

open Text

/-- Where a directive stands. -/
def Directive.range : Directive → Range
  | .inclusion d => d.range
  | .variable v => v.range
  | .request b => b.range

/-- A line with something on it that is no comment. -/
def hasContent (line : List Char) : Bool :=
  !isBlankLine line && !isComment line

/-! ### The request of a block -/

variable {lines before stretch after : List NumberedLine} {line first last : NumberedLine}
  {b : RequestBlock}

/-- A request that reaches from the line `first` to the line `last`. -/
structure RequestBlock.Spans (lines : List NumberedLine) (first last : NumberedLine)
    (b : RequestBlock) : Prop where
  first_mem : first ∈ lines
  last_mem : last ∈ lines
  first_le_last : first.1 ≤ last.1
  first_content : hasContent first.2 = true
  last_content : hasContent last.2 = true
  range_eq : b.range = ⟨⟨first.1, 0⟩, ⟨last.1, units last.2⟩⟩
  no_boundary : NoBoundary (within first.1 last.1 lines)
  text_eq : b.text = String.ofList (joinLines
    (((within first.1 last.1 lines).filter (fun l => !isComment l.2)).map (·.2)))

section Retained

variable {block : List NumberedLine}

theorem exists_eq_append_retained (block : List NumberedLine) :
    ∃ front back, block.filter (fun l => !isComment l.2) = front ++ (retained block ++ back) ∧
      (∀ l ∈ front, isBlankLine l.2 = true) ∧ ∀ l ∈ back, isBlankLine l.2 = true :=
  exists_eq_append_dropEnds (fun (l : NumberedLine) => isBlankLine l.2) _

theorem mem_of_mem_retained (h : line ∈ retained block) :
    line ∈ block ∧ isComment line.2 = false := by
  obtain ⟨front, back, hsplit, -⟩ := exists_eq_append_retained block
  have hmem : line ∈ block.filter (fun l => !isComment l.2) := by
    rw [hsplit]
    exact List.mem_append_right _ (List.mem_append_left _ h)
  simpa using hmem

theorem mem_retained (h : line ∈ block) (hcontent : hasContent line.2 = true) :
    line ∈ retained block := by
  obtain ⟨front, back, hsplit, hfront, hback⟩ := exists_eq_append_retained block
  rw [hasContent, Bool.and_eq_true, Bool.not_eq_true'] at hcontent
  have hmem : line ∈ front ++ (retained block ++ back) := by
    rw [← hsplit]
    exact List.mem_filter.mpr ⟨h, hcontent.2⟩
  rcases List.mem_append.mp hmem with hmem | hmem
  · exact absurd (hfront line hmem) (by simp [hcontent.1])
  · rcases List.mem_append.mp hmem with hmem | hmem
    · exact hmem
    · exact absurd (hback line hmem) (by simp [hcontent.1])

/-- What is retained begins and ends with lines that have content. -/
theorem hasContent_of_end
    (h : line ∈ (retained block).head? ∨ line ∈ (retained block).getLast?) :
    hasContent line.2 = true := by
  have hmem : line ∈ retained block := h.elim List.mem_of_mem_head? List.mem_of_mem_getLast?
  have hblank : isBlankLine line.2 = false := by
    rcases h with h | h
    · exact head?_dropEnds_eq_false line h
    · exact getLast?_dropEnds_eq_false line h
  rw [hasContent, hblank, (mem_of_mem_retained hmem).2]
  rfl

/-- What is retained are the lines without the comments between its first and its last line. -/
theorem within_retained (hblock : Increasing block) (hne : retained block ≠ []) :
    (within ((retained block).head hne).1 ((retained block).getLast hne).1 block).filter
      (fun l => !isComment l.2) = retained block := by
  obtain ⟨front, back, hsplit, -⟩ := exists_eq_append_retained block
  have hincreasing : Increasing (front ++ (retained block ++ back)) := by
    rw [← hsplit]
    exact hblock.filter _
  have hretained : Increasing (retained block) :=
    (List.pairwise_append.mp (List.pairwise_append.mp hincreasing).2.1).1
  calc (within ((retained block).head hne).1 ((retained block).getLast hne).1 block).filter
        (fun l => !isComment l.2)
      = within ((retained block).head hne).1 ((retained block).getLast hne).1
          (block.filter (fun l => !isComment l.2)) := List.filter_comm ..
    _ = within ((retained block).head hne).1 ((retained block).getLast hne).1
          (retained block) := by
        rw [hsplit, within_append_of_mem hincreasing (List.head_mem hne) (List.getLast_mem hne)]
    _ = retained block := within_head_getLast hretained hne

theorem block?_eq_none (h : retained block = []) : block? block = none := by
  simp [block?, h]

theorem block?_eq_some (hne : retained block ≠ []) :
    block? block = some
      { range := (Range.wholeLine ((retained block).head hne).1 ((retained block).head hne).2).union
          (.wholeLine ((retained block).getLast hne).1 ((retained block).getLast hne).2)
        text := String.ofList (joinLines ((retained block).map (·.2)))
        name := blockName? block } := by
  simp [block?, List.head?_eq_some_head hne, List.getLast?_eq_some_getLast hne]

/-- A block with a request has retained lines, and the request is read off them. -/
theorem exists_retained_of_block? (h : block? block = some b) : ∃ hne : retained block ≠ [], b =
    { range := (Range.wholeLine ((retained block).head hne).1 ((retained block).head hne).2).union
        (.wholeLine ((retained block).getLast hne).1 ((retained block).getLast hne).2)
      text := String.ofList (joinLines ((retained block).map (·.2)))
      name := blockName? block } := by
  by_cases hne : retained block = []
  · rw [block?_eq_none hne] at h
    cases h
  · rw [block?_eq_some hne] at h
    exact ⟨hne, (Option.some.inj h).symm⟩

/-- The request of a block reaches from its first to its last line with content. -/
theorem block?_spans (hblock : Increasing block) (hnone : NoBoundary block)
    (h : block? block = some b) : ∃ first last, b.Spans block first last ∧
      (∀ l ∈ block, hasContent l.2 = true → first.1 ≤ l.1 ∧ l.1 ≤ last.1) := by
  obtain ⟨hne, rfl⟩ := exists_retained_of_block? h
  have hwithin := within_retained hblock hne
  have hbounds : ∀ l ∈ retained block,
      ((retained block).head hne).1 ≤ l.1 ∧ l.1 ≤ ((retained block).getLast hne).1 := by
    intro l hl
    rw [← hwithin, List.mem_filter, mem_within] at hl
    exact hl.1.2
  have hfirst := (mem_of_mem_retained (List.head_mem hne)).1
  have hlast := (mem_of_mem_retained (List.getLast_mem hne)).1
  have hle := (hbounds _ (List.getLast_mem hne)).1
  refine ⟨(retained block).head hne, (retained block).getLast hne, ?_, ?_⟩
  · exact {
      first_mem := hfirst
      last_mem := hlast
      first_le_last := hle
      first_content := hasContent_of_end (.inl (List.head_mem_head? hne))
      last_content := hasContent_of_end (.inr (List.getLast_mem_getLast? hne))
      range_eq := Range.union_wholeLine (hle.lt_or_eq.imp_right fun heq =>
        ⟨heq, congrArg Prod.snd (hblock.eq_of_number_eq hfirst hlast heq)⟩)
      no_boundary := fun l hl => hnone l (mem_within.mp hl).1
      text_eq := by rw [hwithin] }
  · intro l hl hcontent
    exact hbounds l (mem_retained hl hcontent)

end Retained

theorem RequestBlock.Spans.append (h : b.Spans stretch first last)
    (hlines : Increasing (before ++ (stretch ++ after))) :
    b.Spans (before ++ (stretch ++ after)) first last := by
  have hwithin := within_append_of_mem hlines h.first_mem h.last_mem
  exact { h with
    first_mem := List.mem_append_right _ (List.mem_append_left _ h.first_mem)
    last_mem := List.mem_append_right _ (List.mem_append_left _ h.last_mem)
    no_boundary := by rw [hwithin]; exact h.no_boundary
    text_eq := by rw [hwithin]; exact h.text_eq }

/-! ### All directives -/

variable {d : Directive}

theorem range_of_ownDirective? (h : ownDirective? line = some d) :
    d.range = .wholeLine line.1 line.2 := by
  rcases ownDirective?_cases h with ⟨i, hi, rfl⟩ | ⟨-, v, hv, rfl⟩
  · obtain ⟨form, -, rfl⟩ := Option.map_eq_some_iff.mp hi
    rfl
  · obtain ⟨form, -, rfl⟩ := Option.map_eq_some_iff.mp hv
    rfl

/-- A directive comes from one line, or it is a request and spans several. -/
inductive ReadFrom (lines : List NumberedLine) : Directive → Prop where
  | own {line : NumberedLine} {d : Directive} (mem : line ∈ lines)
      (reads : ownDirective? line = some d) : ReadFrom lines d
  | request {first last : NumberedLine} {b : RequestBlock} (spans : b.Spans lines first last) :
      ReadFrom lines (.request b)

theorem ReadFrom.append (h : ReadFrom stretch d)
    (hlines : Increasing (before ++ (stretch ++ after))) :
    ReadFrom (before ++ (stretch ++ after)) d := by
  cases h with
  | own hmem hreads => exact .own (List.mem_append_right _ (List.mem_append_left _ hmem)) hreads
  | request hspans => exact .request (hspans.append hlines)

theorem ReadFrom.appendLeft (h : ReadFrom stretch d) (hlines : Increasing (before ++ stretch)) :
    ReadFrom (before ++ stretch) d := by
  rw [← List.append_nil stretch] at hlines ⊢
  exact h.append hlines

theorem ReadFrom.appendRight (h : ReadFrom stretch d) (hlines : Increasing (stretch ++ after)) :
    ReadFrom (stretch ++ after) d := by
  rw [← List.nil_append (stretch ++ after)] at hlines ⊢
  exact h.append hlines

/-- A directive reaches from the beginning of one line to the end of the same or a later one. -/
theorem ReadFrom.exists_ends (h : ReadFrom lines d) : ∃ first ∈ lines, ∃ last ∈ lines,
    first.1 ≤ last.1 ∧ d.range = ⟨⟨first.1, 0⟩, ⟨last.1, units last.2⟩⟩ := by
  cases h with
  | own hmem hreads => exact ⟨_, hmem, _, hmem, Nat.le_refl _, range_of_ownDirective? hreads⟩
  | request hspans =>
      exact ⟨_, hspans.first_mem, _, hspans.last_mem, hspans.first_le_last, hspans.range_eq⟩

theorem ReadFrom.stop_lt_start {e : Directive} (h : ReadFrom before d) (h' : ReadFrom after e)
    (hlt : ∀ l ∈ before, ∀ l' ∈ after, l.1 < l'.1) : d.range.stop.line < e.range.start.line := by
  obtain ⟨_, _, last, hlast, _, hrange⟩ := h.exists_ends
  obtain ⟨first, hfirst, _, _, _, hrange'⟩ := h'.exists_ends
  rw [hrange, hrange']
  exact hlt last hlast first hfirst

/-- Every directive comes from the lines, and they come in the order of their lines without sharing
any. -/
theorem readFrom_and_pairwise (lines : List NumberedLine) (hlines : Increasing lines) :
    (∀ d ∈ directives lines, ReadFrom lines d) ∧
    (directives lines).Pairwise (fun d e => d.range.stop.line < e.range.start.line) := by
  induction lines using directives_induction with
  | nil => exact ⟨fun d hd => (List.not_mem_nil hd).elim, .nil⟩
  | own line _ =>
      cases hown : ownDirective? line with
      | none => exact ⟨fun d hd => (List.not_mem_nil hd).elim, .nil⟩
      | some d =>
          refine ⟨?_, List.pairwise_singleton _ d⟩
          intro e he
          obtain rfl := List.mem_singleton.mp he
          exact .own (List.mem_singleton_self line) hown
  | request block hnone =>
      cases hblock : block? block with
      | none => exact ⟨fun d hd => (List.not_mem_nil hd).elim, .nil⟩
      | some b =>
          obtain ⟨first, last, hspans, -⟩ := block?_spans hlines hnone hblock
          refine ⟨?_, List.pairwise_singleton _ _⟩
          intro e he
          obtain rfl := List.mem_singleton.mp he
          exact .request hspans
  | append ih ih' =>
      obtain ⟨hfront, hback, hacross⟩ := List.pairwise_append.mp hlines
      obtain ⟨hread, hordered⟩ := ih hfront
      obtain ⟨hread', hordered'⟩ := ih' hback
      constructor
      · intro d hd
        rcases List.mem_append.mp hd with hd | hd
        · exact (hread d hd).appendRight hlines
        · exact (hread' d hd).appendLeft hlines
      · refine List.pairwise_append.mpr ⟨hordered, hordered', ?_⟩
        intro d hd e he
        exact (hread d hd).stop_lt_start (hread' e he) hacross

theorem readFrom_of_mem (hlines : Increasing lines) (h : d ∈ directives lines) :
    ReadFrom lines d :=
  (readFrom_and_pairwise lines hlines).1 d h

theorem pairwise_directives (hlines : Increasing lines) :
    (directives lines).Pairwise (fun d e => d.range.stop.line < e.range.start.line) :=
  (readFrom_and_pairwise lines hlines).2

/-! ### In a text -/

/-- How a directive lies in a text of these lines.  An include and a file variable stand on one line,
and the code units that the range of an include's path cuts out of its line are those of the path.
A request begins and ends with content, no boundary is among its lines, and its text consists of
those of them that are no comments. -/
structure Directive.PlacedIn (lines : List (List Char)) (d : Directive) : Prop where
  start_le_stop : d.range.start.line ≤ d.range.stop.line
  start_character : d.range.start.character = 0
  stop_character : ∃ h : d.range.stop.line < lines.length,
    d.range.stop.character = units lines[d.range.stop.line]
  of_inclusion : ∀ i, d = .inclusion i → i.range.stop.line = i.range.start.line ∧
    i.pathRange.start.line = i.range.start.line ∧ i.pathRange.stop.line = i.range.start.line ∧
    ∃ line, lines[i.range.start.line]? = some line ∧
      (utf16 line).extract i.pathRange.start.character i.pathRange.stop.character =
        utf16 i.path.toList
  of_variable : ∀ v, d = .variable v → v.range.stop.line = v.range.start.line
  of_request : ∀ b, d = .request b →
    (∃ first, lines[b.range.start.line]? = some first ∧ hasContent first = true) ∧
    (∃ last, lines[b.range.stop.line]? = some last ∧ hasContent last = true) ∧
    (∀ line ∈ lines.extract b.range.start.line (b.range.stop.line + 1), isBoundary line = false) ∧
    b.text = String.ofList (joinLines
      ((lines.extract b.range.start.line (b.range.stop.line + 1)).filter (fun l => !isComment l)))

/-- The path of an include is what its range cuts out of the line. -/
theorem extract_pathRange {i : IncludeDirective} (h : includeDirective? line = some i) :
    (utf16 line.2).extract i.pathRange.start.character i.pathRange.stop.character =
      utf16 i.path.toList := by
  obtain ⟨form, hform, rfl⟩ := Option.map_eq_some_iff.mp h
  obtain ⟨tail, htail⟩ := (includeLine?_eq_some_iff.mp hform).exists_tail
  simp only [String.toList_ofList]
  nth_rewrite 1 [htail]
  exact extract_utf16 form.lead form.path tail

theorem placedIn_of_ownDirective? {text : List Char} (hmem : line ∈ numberedLines 0 text)
    (hreads : ownDirective? line = some d) : d.PlacedIn (Text.lines text) := by
  have hline := mem_numberedLines_iff.mp hmem
  obtain ⟨hlt, heq⟩ := List.getElem?_eq_some_iff.mp hline
  have hrange := range_of_ownDirective? hreads
  have hcases := ownDirective?_cases hreads
  refine {
    start_le_stop := by rw [hrange]; exact Nat.le_refl _
    start_character := by rw [hrange]; rfl
    stop_character := by
      rw [hrange]
      exact ⟨hlt, congrArg units heq.symm⟩
    of_inclusion := ?_
    of_variable := ?_
    of_request := ?_ }
  · rintro i rfl
    obtain ⟨_, hi, ⟨⟩⟩ | ⟨-, v, -, heq⟩ := hcases
    · have hslice := extract_pathRange hi
      obtain ⟨form, -, rfl⟩ := Option.map_eq_some_iff.mp hi
      exact ⟨rfl, rfl, rfl, line.2, hline, hslice⟩
    · cases heq
  · rintro v rfl
    rw [show v.range = _ from hrange]
    rfl
  · rintro b rfl
    obtain ⟨i, -, heq⟩ | ⟨-, v, -, heq⟩ := hcases
    · cases heq
    · cases heq

theorem RequestBlock.Spans.placedIn {text : List Char}
    (h : b.Spans (numberedLines 0 text) first last) :
    Directive.PlacedIn (Text.lines text) (.request b) := by
  have hfirst := mem_numberedLines_iff.mp h.first_mem
  have hlast := mem_numberedLines_iff.mp h.last_mem
  obtain ⟨hlt, heq⟩ := List.getElem?_eq_some_iff.mp hlast
  have hwithin : (within first.1 last.1 (numberedLines 0 text)).map (·.2) =
      (Text.lines text).extract first.1 (last.1 + 1) := map_snd_within_numberedLines text
  have hrange : Directive.range (.request b) = _ := h.range_eq
  refine {
    start_le_stop := by rw [hrange]; exact h.first_le_last
    start_character := by rw [hrange]
    stop_character := by
      rw [hrange]
      exact ⟨hlt, congrArg units heq.symm⟩
    of_inclusion := fun i hi => nomatch hi
    of_variable := fun v hv => nomatch hv
    of_request := ?_ }
  rintro b ⟨⟩
  rw [h.range_eq, ← hwithin]
  refine ⟨⟨first.2, hfirst, h.first_content⟩, ⟨last.2, hlast, h.last_content⟩, ?_, ?_⟩
  · intro l hl
    obtain ⟨m, hm, rfl⟩ := List.mem_map.mp hl
    exact h.no_boundary m hm
  · rw [List.filter_map]
    exact h.text_eq

/-- The directives of a text lie in its lines one after the other. -/
theorem scan_placed (text : String) :
    (∀ d ∈ scan text, d.PlacedIn (Text.lines text.toList)) ∧
    (scan text).Pairwise (fun d e => d.range.stop.line < e.range.start.line) := by
  have hlines := increasing_numberedLines 0 text.toList
  constructor
  · intro d hd
    cases readFrom_of_mem hlines hd with
    | own hmem hreads => exact placedIn_of_ownDirective? hmem hreads
    | request hspans => exact hspans.placedIn
  · exact pairwise_directives hlines

end HttpScript.Script
