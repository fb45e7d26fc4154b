/-
Module: HttpScript.Proofs.Script.Coverage
Purpose: No line of a script is lost and none is read twice.  A line with content lies in exactly one
  directive, unless it begins with an at-sign and is neither an include nor a file variable; and a
  line that begins with an at-sign is read for what it is, wherever it stands.
Main exports: Directive.covers, filter_covers_eq_singleton, exists_covers, scan_covers_lines
-/
import HttpScript.Proofs.Script.Placement

namespace HttpScript.Script

open Text

/-- Whether a line is among those of a directive. -/
def Directive.covers (d : Directive) (n : Nat) : Bool :=
  d.range.start.line ≤ n && n ≤ d.range.stop.line

variable {lines : List NumberedLine} {line : NumberedLine} {d : Directive} {n : Nat}

theorem covers_iff : d.covers n = true ↔ d.range.start.line ≤ n ∧ n ≤ d.range.stop.line := by
  simp [Directive.covers]

theorem covers_of_ownDirective? (h : ownDirective? line = some d) : d.covers line.1 = true := by
  rw [covers_iff, range_of_ownDirective? h]
  exact ⟨Nat.le_refl _, Nat.le_refl _⟩

/-- A line is among those of one directive at most. -/
theorem filter_covers_eq_singleton (hlines : Increasing lines) (hd : d ∈ directives lines)
    (h : d.covers n = true) : (directives lines).filter (·.covers n) = [d] := by
  have hordered := pairwise_directives hlines
  obtain ⟨before, after, hsplit⟩ := List.append_of_mem hd
  rw [hsplit, List.pairwise_append] at hordered
  obtain ⟨-, hrest, hbefore⟩ := hordered
  rw [covers_iff] at h
  have hfront : before.filter (·.covers n) = [] := by
    rw [List.filter_eq_nil_iff]
    intro e he hcovers
    have hlt := hbefore e he d List.mem_cons_self
    rw [covers_iff] at hcovers
    omega
  have hback : after.filter (·.covers n) = [] := by
    rw [List.filter_eq_nil_iff]
    intro e he hcovers
    have hlt := List.rel_of_pairwise_cons hrest he
    rw [covers_iff] at hcovers
    omega
  rw [hsplit, List.filter_append, hfront, List.filter_cons, if_pos (covers_iff.mpr h), hback]
  rfl

/-- A line that is neither blank nor a comment lies in a directive, if it is not a boundary that is
no directive. -/
theorem exists_covers (lines : List NumberedLine) (hlines : Increasing lines) :
    ∀ l ∈ lines, hasContent l.2 = true →
      (isBoundary l.2 = true → (ownDirective? l).isSome = true) →
      ∃ d ∈ directives lines, d.covers l.1 = true := by
  induction lines using directives_induction with
  | nil => exact fun l hl => (List.not_mem_nil hl).elim
  | own line hread =>
      intro l hl hcontent hboundary
      obtain rfl := List.mem_singleton.mp hl
      have hown : (ownDirective? l).isSome = true := by
        rcases hread with hb | hopens
        · exact hboundary hb
        · rw [hasContent, Bool.and_eq_true, Bool.not_eq_true'] at hcontent
          exact isSome_ownDirective? hcontent.1 hopens
      obtain ⟨d, hd⟩ := Option.isSome_iff_exists.mp hown
      exact ⟨d, by simp [hd], covers_of_ownDirective? hd⟩
  | request block hnone =>
      intro l hl hcontent _
      have hblock := block?_eq_some (List.ne_nil_of_mem (mem_retained hl hcontent))
      obtain ⟨first, last, hspans, hbounds⟩ := block?_spans hlines hnone hblock
      refine ⟨_, by rw [hblock]; exact List.mem_singleton_self _, covers_iff.mpr ?_⟩
      rw [show Directive.range (.request _) = _ from hspans.range_eq]
      exact hbounds l hl hcontent
  | append ih ih' =>
      obtain ⟨hfront, hback, -⟩ := List.pairwise_append.mp hlines
      intro l hl hcontent hboundary
      rcases List.mem_append.mp hl with hl | hl
      · obtain ⟨d, hd, hcovers⟩ := ih hfront l hl hcontent hboundary
        exact ⟨d, List.mem_append_left _ hd, hcovers⟩
      · obtain ⟨d, hd, hcovers⟩ := ih' hback l hl hcontent hboundary
        exact ⟨d, List.mem_append_right _ hd, hcovers⟩

/-- A boundary is a directive of the script if it is one by itself. -/
theorem mem_directives_of_ownDirective? (hline : line ∈ lines)
    (hboundary : isBoundary line.2 = true) (h : ownDirective? line = some d) : d ∈ directives lines := by
  induction lines using directives_induction with
  | nil => exact (List.not_mem_nil hline).elim
  | own line' _ =>
      obtain rfl := List.mem_singleton.mp hline
      simp [h]
  | request block hnone =>
      have hb := hnone line hline
      rw [hboundary] at hb
      cases hb
  | append ih ih' =>
      rcases List.mem_append.mp hline with hline | hline
      · exact List.mem_append_left _ (ih hline)
      · exact List.mem_append_right _ (ih' hline)

/-- No directive but its own has a boundary among its lines. -/
theorem ownDirective?_of_covers (hlines : Increasing lines) (hd : d ∈ directives lines)
    (hline : line ∈ lines) (hboundary : isBoundary line.2 = true) (h : d.covers line.1 = true) :
    ownDirective? line = some d := by
  rw [covers_iff] at h
  cases readFrom_of_mem hlines hd with
  | @own line' _ hmem hreads =>
      rw [range_of_ownDirective? hreads] at h
      have heq : line' = line := hlines.eq_of_number_eq hmem hline (Nat.le_antisymm h.1 h.2)
      rwa [heq] at hreads
  | @request first last b hspans =>
      rw [show Directive.range (.request b) = _ from hspans.range_eq] at h
      have hno := hspans.no_boundary line (mem_within.mpr ⟨hline, h⟩)
      rw [hboundary] at hno
      cases hno

/-- The directives among whose lines a boundary is: its own, if it has one. -/
theorem filter_covers_boundary (hlines : Increasing lines) (hline : line ∈ lines)
    (hboundary : isBoundary line.2 = true) :
    (directives lines).filter (·.covers line.1) = (ownDirective? line).toList := by
  cases hown : ownDirective? line with
  | some d =>
      exact filter_covers_eq_singleton hlines (mem_directives_of_ownDirective? hline hboundary hown)
        (covers_of_ownDirective? hown)
  | none =>
      rw [Option.toList_none, List.filter_eq_nil_iff]
      intro d hd hcovers
      have hsome := ownDirective?_of_covers hlines hd hline hboundary hcovers
      rw [hown] at hsome
      cases hsome

/-! ### In a text -/

/-- What a line is by itself is decided by its form: include first, then file variable. -/
theorem ownDirective?_of_form (n : Nat) (line : List Char) :
    (∀ i, IncludeForm line i → ownDirective? (n, line) =
      some (.inclusion ⟨.wholeLine n line, .span n i.lead i.path, .ofList i.path⟩)) ∧
    ((∀ i, ¬IncludeForm line i) → ∀ v, VariableForm line v → ownDirective? (n, line) =
      some (.variable ⟨.wholeLine n line, .ofList v.key, .ofList v.value⟩)) ∧
    ((∀ i, ¬IncludeForm line i) → (∀ v, ¬VariableForm line v) →
      ownDirective? (n, line) = none) := by
  refine ⟨?_, ?_, ?_⟩
  · intro i hi
    simp only [ownDirective?, includeDirective?, includeLine?_eq_some_iff.mpr hi, Option.map_some]
  · intro hinclude v hv
    simp only [ownDirective?, includeDirective?, includeLine?_eq_none_iff.mpr hinclude,
      fileVariable?, variableLine?_eq_some_iff.mpr hv, Option.map_none, Option.map_some]
  · intro hinclude hvariable
    simp only [ownDirective?, includeDirective?, includeLine?_eq_none_iff.mpr hinclude,
      fileVariable?, variableLine?_eq_none_iff.mpr hvariable, Option.map_none]

/-- A boundary with content begins with an at-sign, so it is a directive if it has the form of one.
-/
theorem isSome_ownDirective?_of_isBoundary {n : Nat} {line : List Char}
    (hcontent : hasContent line = true)
    (hread : ¬(line.head? = some '@' ∧ (∀ i, ¬IncludeForm line i) ∧ ∀ v, ¬VariableForm line v))
    (hboundary : isBoundary line = true) : (ownDirective? (n, line)).isSome = true := by
  rw [hasContent, Bool.and_eq_true, Bool.not_eq_true', Bool.not_eq_true'] at hcontent
  have hat := head?_of_isBoundary hboundary hcontent.2
  obtain ⟨hinclude, hvariable, -⟩ := ownDirective?_of_form n line
  by_cases hform : ∃ i, IncludeForm line i
  · obtain ⟨i, hi⟩ := hform
    rw [hinclude i hi]
    rfl
  · have hno : ∀ i, ¬IncludeForm line i := not_exists.mp hform
    obtain ⟨v, hv⟩ := not_forall_not.mp (fun hnone => hread ⟨hat, hno, hnone⟩)
    rw [hvariable hno v hv]
    rfl

/-- Of the directives of a text, exactly one has a given line with content among its lines, unless
the line begins with an at-sign and is neither an include nor a file variable.  A line that begins
with an at-sign is an include if it has the form of one, else a file variable if it has the form of
one, else nothing, whatever stands around it. -/
theorem scan_covers_lines (text : String) (n : Nat) (line : List Char)
    (hline : (Text.lines text.toList)[n]? = some line) :
    let covering := (scan text).filter (·.covers n)
    (hasContent line = true →
      ¬(line.head? = some '@' ∧ (∀ i, ¬IncludeForm line i) ∧ ∀ v, ¬VariableForm line v) →
      ∃ d, covering = [d]) ∧
    (line.head? = some '@' →
      (∀ i, IncludeForm line i →
        covering = [.inclusion ⟨.wholeLine n line, .span n i.lead i.path, .ofList i.path⟩]) ∧
      ((∀ i, ¬IncludeForm line i) → ∀ v, VariableForm line v →
        covering = [.variable ⟨.wholeLine n line, .ofList v.key, .ofList v.value⟩]) ∧
      ((∀ i, ¬IncludeForm line i) → (∀ v, ¬VariableForm line v) → covering = [])) := by
  intro covering
  have hlines := increasing_numberedLines 0 text.toList
  have hmem : (n, line) ∈ numberedLines 0 text.toList := mem_numberedLines_iff.mpr hline
  constructor
  · intro hcontent hread
    obtain ⟨d, hd, hcovers⟩ := exists_covers _ hlines (n, line) hmem hcontent
      (isSome_ownDirective?_of_isBoundary hcontent hread)
    exact ⟨d, filter_covers_eq_singleton hlines hd hcovers⟩
  · intro hat
    have hown : covering = (ownDirective? (n, line)).toList :=
      filter_covers_boundary hlines hmem (isBoundary_of_head? hat)
    obtain ⟨hinclude, hvariable, hnone⟩ := ownDirective?_of_form n line
    rw [hown]
    refine ⟨?_, ?_, ?_⟩
    · intro i hi
      rw [hinclude i hi]
      rfl
    · intro hno v hv
      rw [hvariable hno v hv]
      rfl
    · intro hno hno'
      rw [hnone hno hno']
      rfl

/-- A file variable between two requests. -/
def interrupted : String :=
  "GET https://a.example\n  # note\n@id = 7\nGET https://b.example/"

/-- The file variable ends the first request, whose block would go on otherwise. -/
theorem scan_covers_lines_interrupted :
    (Text.lines interrupted.toList)[2]? = some "@id = 7".toList ∧
    (scan interrupted).filter (·.covers 2) = [.variable ⟨.onLine 2 0 7, "id", "7"⟩] := by
  have hline : (Text.lines interrupted.toList)[2]? = some "@id = 7".toList := by decide
  have hinclude : ∀ i, ¬IncludeForm "@id = 7".toList i :=
    includeLine?_eq_none_iff.mp (by decide)
  have hvariable : VariableForm "@id = 7".toList ⟨"id".toList, "7".toList⟩ :=
    variableLine?_eq_some_iff.mp (by decide)
  exact ⟨hline, ((scan_covers_lines interrupted 2 _ hline).2 rfl).2.1 hinclude _ hvariable⟩

end HttpScript.Script
