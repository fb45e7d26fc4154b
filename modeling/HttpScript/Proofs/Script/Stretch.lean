/-
Module: HttpScript.Proofs.Script.Stretch
Purpose: A script is read stretch by stretch.  Boundaries cut its lines into stretches that do not
  know of each other: a boundary is at most one directive by itself, and a stretch is some file
  variables and then at most one request.
Main exports: ownDirective?, opensBlock, passed, blockOf, directives_append, directives_cons_boundary,
  directives_stretch, directives_append_stretch, directives_induction
-/
import HttpScript.Proofs.Script.LineForm
import HttpScript.Script.Directive

namespace HttpScript.Script

open Text

/-! ### Boundaries -/

/-- The directive that a line is whatever stands around it. -/
def ownDirective? (line : NumberedLine) : Option Directive :=
  match includeDirective? line with
  | some d => some (.inclusion d)
  | none => (fileVariable? line).map .variable

/-- No line is a boundary. -/
def NoBoundary (lines : List NumberedLine) : Prop :=
  ∀ l ∈ lines, isBoundary l.2 = false

/-- Nothing, or a boundary and what follows it. -/
def FromBoundary (lines : List NumberedLine) : Prop :=
  ∀ l ∈ lines.head?, isBoundary l.2 = true

/-- Nothing, or something that a boundary ends. -/
def ToBoundary (lines : List NumberedLine) : Prop :=
  ∀ l ∈ lines.getLast?, isBoundary l.2 = true

instance (lines : List NumberedLine) : Decidable (NoBoundary lines) :=
  inferInstanceAs (Decidable (∀ l ∈ lines, isBoundary l.2 = false))

instance (lines : List NumberedLine) : Decidable (FromBoundary lines) :=
  inferInstanceAs (Decidable (∀ l ∈ lines.head?, isBoundary l.2 = true))

instance (lines : List NumberedLine) : Decidable (ToBoundary lines) :=
  inferInstanceAs (Decidable (∀ l ∈ lines.getLast?, isBoundary l.2 = true))

variable {line : NumberedLine} {lines before stretch rest after : List NumberedLine}

theorem toBoundary_rdropWhile (lines : List NumberedLine) :
    ToBoundary (lines.rdropWhile (fun l => !isBoundary l.2)) := by
  intro l hl
  simpa using getLast?_rdropWhile_eq_false l hl

theorem noBoundary_rtakeWhile (lines : List NumberedLine) :
    NoBoundary (lines.rtakeWhile (fun l => !isBoundary l.2)) := by
  intro l hl
  simpa using List.mem_rtakeWhile_imp hl

theorem noBoundary_takeWhile (lines : List NumberedLine) :
    NoBoundary (lines.takeWhile (fun l => !isBoundary l.2)) := by
  intro l hl
  simpa using List.mem_takeWhile_imp hl

theorem fromBoundary_dropWhile (lines : List NumberedLine) :
    FromBoundary (lines.dropWhile (fun l => !isBoundary l.2)) := by
  intro l hl
  simpa using head?_dropWhile_eq_false l hl

theorem ownDirective?_cases {d : Directive} (h : ownDirective? line = some d) :
    (∃ i, includeDirective? line = some i ∧ d = .inclusion i) ∨
    includeDirective? line = none ∧ ∃ v, fileVariable? line = some v ∧ d = .variable v := by
  unfold ownDirective? at h
  split at h
  next i hi => exact .inl ⟨i, hi, (Option.some.inj h).symm⟩
  next hnone =>
    obtain ⟨v, hv, heq⟩ := Option.map_eq_some_iff.mp h
    exact .inr ⟨hnone, v, hv, heq.symm⟩

theorem directives_cons_boundary (h : isBoundary line.2 = true) :
    directives (line :: rest) = (ownDirective? line).toList ++ directives rest := by
  rw [directives, isBlankLine_of_isBoundary h, ownDirective?]
  cases hinclude : includeDirective? line with
  | some d => rfl
  | none =>
      cases hvariable : fileVariable? line with
      | some v => rfl
      | none => simp [h]

/-- Nothing reaches across a boundary. -/
theorem directives_append (h : FromBoundary after) :
    directives (lines ++ after) = directives lines ++ directives after := by
  have hstop : ∀ l ∈ after.head?, (!isBoundary l.2) = false := by
    intro l hl
    rw [h l hl]
    rfl
  fun_induction directives lines with
  | case1 => rfl
  | case2 line rest hblank ih => rw [List.cons_append, directives, if_pos hblank, ih]
  | case3 line rest hblank d hd ih =>
      rw [List.cons_append, directives, if_neg hblank]
      simp only [hd, ih, List.cons_append]
  | case4 line rest hblank hnone v hv ih =>
      rw [List.cons_append, directives, if_neg hblank]
      simp only [hnone, hv, ih, List.cons_append]
  | case5 line rest hblank hnone hnone' hboundary ih =>
      rw [List.cons_append, directives, if_neg hblank]
      simp only [hnone, hnone', hboundary, if_true, ih]
  | case6 line rest hblank hnone hnone' hboundary more behind ih =>
      rw [List.cons_append, directives, if_neg hblank]
      simp only [hnone, hnone', hboundary]
      have hmore : (rest ++ after).takeWhile (fun l => !isBoundary l.2) = more :=
        takeWhile_append_stop rest hstop
      have hbehind : (rest ++ after).dropWhile (fun l => !isBoundary l.2) = behind ++ after :=
        dropWhile_append_stop rest hstop
      rw [hmore, hbehind, ih]
      simp only [Bool.false_eq_true, if_false, List.append_assoc]

/-- A stretch, a boundary and the rest of a script do not know of each other. -/
theorem directives_append_cons (h : isBoundary line.2 = true) :
    directives (stretch ++ line :: rest) =
      directives stretch ++ ((ownDirective? line).toList ++ directives rest) := by
  have hfrom : FromBoundary (line :: rest) := fun l hl => Option.some.inj hl ▸ h
  rw [directives_append hfrom, directives_cons_boundary h]

theorem directives_append_of_toBoundary (h : ToBoundary before) :
    directives (before ++ rest) = directives before ++ directives rest := by
  induction before using List.reverseRecOn with
  | nil => simp [directives]
  | append_singleton before b =>
      have hb : isBoundary b.2 = true := h b (by simp)
      rw [List.append_assoc, List.singleton_append, directives_append_cons hb,
        directives_append_cons hb, directives, List.append_nil, List.append_assoc]

/-! ### Stretches -/

/-- A line at which a request's block begins, unless it is a boundary. -/
def opensBlock (line : List Char) : Bool :=
  !isBlankLine line && (variableLine? line).isNone

/-- The lines of a stretch in front of its block: blank lines and file variables. -/
def passed (stretch : List NumberedLine) : List NumberedLine :=
  stretch.takeWhile (fun l => !opensBlock l.2)

/-- The lines of a stretch from the first one on that is neither blank nor a file variable. -/
def blockOf (stretch : List NumberedLine) : List NumberedLine :=
  stretch.dropWhile (fun l => !opensBlock l.2)

theorem passed_append_blockOf (stretch : List NumberedLine) :
    passed stretch ++ blockOf stretch = stretch :=
  List.takeWhile_append_dropWhile

section

variable {line : NumberedLine} {rest : List NumberedLine}

theorem passed_cons (h : opensBlock line.2 = false) :
    passed (line :: rest) = line :: passed rest := by
  simp [passed, h]

theorem blockOf_cons (h : opensBlock line.2 = false) : blockOf (line :: rest) = blockOf rest := by
  simp [blockOf, h]

theorem passed_cons_of_opensBlock (h : opensBlock line.2 = true) : passed (line :: rest) = [] := by
  simp [passed, h]

theorem blockOf_cons_of_opensBlock (h : opensBlock line.2 = true) :
    blockOf (line :: rest) = line :: rest := by
  simp [blockOf, h]

end

theorem opensBlock_of_isComment (h : isComment line.2 = true) : opensBlock line.2 = true := by
  simp [opensBlock, isBlankLine_of_isComment h, variableLine?_eq_none_of_isComment h]

theorem opensBlock_eq_false_of_isBlankLine (h : isBlankLine line.2 = true) :
    opensBlock line.2 = false := by
  simp [opensBlock, h]

theorem opensBlock_eq_false_of_fileVariable? {v : FileVariable} (h : fileVariable? line = some v) :
    opensBlock line.2 = false := by
  obtain ⟨form, hform, -⟩ := Option.map_eq_some_iff.mp h
  simp [opensBlock, hform]

/-- Lines that open no block are passed together. -/
theorem passed_append {front back : List NumberedLine}
    (h : ∀ l ∈ front, opensBlock l.2 = false) : passed (front ++ back) = front ++ passed back := by
  apply List.takeWhile_append_of_pos
  intro l hl
  simp [h l hl]

theorem blockOf_append {front back : List NumberedLine}
    (h : ∀ l ∈ front, opensBlock l.2 = false) : blockOf (front ++ back) = blockOf back := by
  apply List.dropWhile_append_of_pos
  intro l hl
  simp [h l hl]

theorem opensBlock_of_mem_passed (h : line ∈ passed stretch) : opensBlock line.2 = false := by
  have hpassed : (!opensBlock line.2) = true :=
    List.mem_takeWhile_imp (p := fun (l : NumberedLine) => !opensBlock l.2) h
  simpa using hpassed

theorem mem_of_mem_passed (h : line ∈ passed stretch) : line ∈ stretch :=
  (List.takeWhile_prefix _).subset h

/-- The first line of a stretch that opens a block, if one does. -/
theorem exists_opensBlock_of_mem (h : line ∈ stretch) (hopens : opensBlock line.2 = true) :
    ∃ skipped first rest, stretch = skipped ++ first :: rest ∧
      (∀ l ∈ skipped, opensBlock l.2 = false) ∧ opensBlock first.2 = true := by
  have hne : blockOf stretch ≠ [] := by
    rw [blockOf, Ne, List.dropWhile_eq_nil_iff]
    intro hall
    simpa [hopens] using hall line h
  obtain ⟨first, rest, hblock⟩ := List.exists_cons_of_ne_nil hne
  refine ⟨passed stretch, first, rest, ?_, fun l hl => opensBlock_of_mem_passed hl, ?_⟩
  · rw [← hblock, passed_append_blockOf]
  · have hfirst : (!opensBlock first.2) = false :=
      head?_dropWhile_eq_false first (by rw [← blockOf, hblock]; rfl)
    simpa using hfirst

theorem includeDirective?_eq_none (h : isBoundary line.2 = false) :
    includeDirective? line = none := by
  rw [includeDirective?, includeLine?_eq_none_of_not_isBoundary h]
  rfl

theorem fileVariable?_eq_none_iff : fileVariable? line = none ↔ variableLine? line.2 = none :=
  Option.map_eq_none_iff

/-- The file variables of a stretch come first, and one request at most comes after them. -/
theorem directives_stretch (h : NoBoundary stretch) :
    directives stretch = ((passed stretch).filterMap fileVariable?).map .variable ++
      ((block? (blockOf stretch)).map .request).toList := by
  induction stretch with
  | nil => rw [directives]; rfl
  | cons line rest ih =>
      obtain ⟨hline, hrest⟩ := List.forall_mem_cons.mp h
      by_cases hblank : isBlankLine line.2 = true
      · have hopens := opensBlock_eq_false_of_isBlankLine hblank
        have hvariable : fileVariable? line = none :=
          fileVariable?_eq_none_iff.mpr (variableLine?_eq_none_of_isBlankLine hblank)
        rw [directives, if_pos hblank, passed_cons hopens, blockOf_cons hopens,
          List.filterMap_cons_none hvariable, ih hrest]
      · rw [directives, if_neg hblank, includeDirective?_eq_none hline]
        cases hvariable : fileVariable? line with
        | some v =>
            have hopens := opensBlock_eq_false_of_fileVariable? hvariable
            simp only [passed_cons hopens, blockOf_cons hopens,
              List.filterMap_cons_some hvariable, List.map_cons, List.cons_append, ih hrest]
        | none =>
            have hopens : opensBlock line.2 = true := by
              simp [opensBlock, hblank, fileVariable?_eq_none_iff.mp hvariable]
            have hall : ∀ l ∈ rest, (!isBoundary l.2) = true := by
              intro l hl
              rw [hrest l hl]
              rfl
            simp only [passed_cons_of_opensBlock hopens, blockOf_cons_of_opensBlock hopens, hline,
              List.takeWhile_eq_self_iff.mpr hall, List.dropWhile_eq_nil_iff.mpr hall]
            simp [directives]

/-- File variables in front of other lines are read first. -/
theorem directives_append_of_forall {front back : List NumberedLine} (hfront : NoBoundary front)
    (hback : NoBoundary back) (hpassed : ∀ l ∈ front, opensBlock l.2 = false) :
    directives (front ++ back) =
      (front.filterMap fileVariable?).map .variable ++ directives back := by
  have hall : NoBoundary (front ++ back) := List.forall_mem_append.mpr ⟨hfront, hback⟩
  rw [directives_stretch hall, directives_stretch hback, passed_append hpassed,
    blockOf_append hpassed, List.filterMap_append, List.map_append, List.append_assoc]

/-- A stretch is one block from its first line on if this line opens one. -/
theorem directives_cons_of_opensBlock (h : NoBoundary (line :: rest))
    (hopens : opensBlock line.2 = true) :
    directives (line :: rest) = ((block? (line :: rest)).map .request).toList := by
  rw [directives_stretch h, passed_cons_of_opensBlock hopens,
    blockOf_cons_of_opensBlock hopens]
  rfl

/-- The directives of a stretch in the middle of a script. -/
theorem directives_append_stretch (hbefore : ToBoundary before) (hafter : FromBoundary after) :
    directives (before ++ (stretch ++ after)) =
      directives before ++ (directives stretch ++ directives after) := by
  rw [directives_append_of_toBoundary hbefore, directives_append hafter]

/-! ### Line by line and block by block -/

/-- A line that opens no block is a directive by itself, or it is blank. -/
theorem isSome_ownDirective? (hblank : isBlankLine line.2 = false)
    (hopens : opensBlock line.2 = false) : (ownDirective? line).isSome = true := by
  have hvariable : fileVariable? line ≠ none := by
    intro hnone
    simp [opensBlock, hblank, fileVariable?_eq_none_iff.mp hnone] at hopens
  obtain ⟨v, hv⟩ := Option.ne_none_iff_exists'.mp hvariable
  rw [ownDirective?, hv]
  split
  · rfl
  · rfl

theorem ownDirective?_eq (h : isBoundary line.2 = false) :
    ownDirective? line = (fileVariable? line).map .variable := by
  rw [ownDirective?, includeDirective?_eq_none h]

theorem ownDirective?_eq_none (h : isBlankLine line.2 = true) : ownDirective? line = none := by
  have hboundary : isBoundary line.2 = false := by
    by_contra hb
    rw [isBlankLine_of_isBoundary (by simpa using hb)] at h
    cases h
  rw [ownDirective?_eq hboundary,
    fileVariable?_eq_none_iff.mpr (variableLine?_eq_none_of_isBlankLine h)]
  rfl

/-- What holds of single lines and of blocks, and of two parts together if of each, holds of a whole
script.  A line that is read by itself is a boundary, blank or a file variable. -/
theorem directives_induction {motive : List NumberedLine → List Directive → Prop}
    (nil : motive [] [])
    (own : ∀ line, (isBoundary line.2 = true ∨ opensBlock line.2 = false) →
      motive [line] (ownDirective? line).toList)
    (request : ∀ block, NoBoundary block → motive block ((block? block).map .request).toList)
    (append : ∀ {lines lines' ds ds'}, motive lines ds → motive lines' ds' →
      motive (lines ++ lines') (ds ++ ds'))
    (lines : List NumberedLine) : motive lines (directives lines) := by
  fun_induction directives lines with
  | case1 => exact nil
  | case2 line rest hblank ih =>
      have hline := own line (.inr (opensBlock_eq_false_of_isBlankLine hblank))
      rw [ownDirective?_eq_none hblank] at hline
      exact append hline ih
  | case3 line rest hblank d hd ih =>
      have hboundary : isBoundary line.2 = true := by
        by_contra hb
        rw [includeDirective?_eq_none (by simpa using hb)] at hd
        cases hd
      have hline := own line (.inl hboundary)
      rw [ownDirective?, hd] at hline
      exact append hline ih
  | case4 line rest hblank hnone v hv ih =>
      have hline := own line (.inr (opensBlock_eq_false_of_fileVariable? hv))
      rw [ownDirective?, hnone, hv] at hline
      exact append hline ih
  | case5 line rest hblank hnone hnone' hboundary ih =>
      have hline := own line (.inl hboundary)
      rw [ownDirective?, hnone, hnone'] at hline
      exact append hline ih
  | case6 line rest hblank hnone hnone' hboundary more after ih =>
      have hblock : NoBoundary (line :: more) :=
        List.forall_mem_cons.mpr ⟨by simpa using hboundary, noBoundary_takeWhile rest⟩
      have hsplit : line :: rest = (line :: more) ++ after := by
        rw [List.cons_append, List.takeWhile_append_dropWhile]
      rw [hsplit]
      exact append (request (line :: more) hblock) ih

end HttpScript.Script
