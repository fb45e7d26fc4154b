/-
Module: HttpScript.Proofs.Script.LineForm
Purpose: The forms of a line written out as what stands on it from left to right.  Each recogniser
  of lines finds exactly the lines of its form, and reads off them what the form says.
Main exports: IncludeForm, includeLine?_eq_some_iff, VariableForm, variableLine?_eq_some_iff,
  NameForm, requestName?_eq_some_iff
-/
import HttpScript.Proofs.Text.Trim
import HttpScript.Script.Line

namespace HttpScript.Script

open Text

variable {line : List Char}

/-! ### Includes -/

/-- The mark, blanks, and a path that the blanks around it do not belong to.  If nothing but blanks
follows the mark, the last of them is the path. -/
inductive IncludeForm : List Char → IncludeLine → Prop where
  | path {blanks path tail : List Char} (blanks_ne : blanks ≠ []) (blanks_blank : AllBlank blanks)
      (path_ne : path ≠ []) (path_trimmed : IsTrimmed path) (tail_blank : AllBlank tail) :
      IncludeForm (includeMark ++ (blanks ++ (path ++ tail))) ⟨includeMark ++ blanks, path⟩
  | blankPath {blanks : List Char} {last : Char} (blanks_ne : blanks ≠ [])
      (blanks_blank : AllBlank blanks) (last_blank : isBlank last = true) :
      IncludeForm (includeMark ++ (blanks ++ [last])) ⟨includeMark ++ blanks, [last]⟩

/-- When only blanks follow the mark, the last one is split off. -/
theorem IncludeForm.of_allBlank {after : List Char} (hafter : AllBlank after) {i : IncludeLine}
    (h : includeLine? (includeMark ++ after) = some i) : IncludeForm (includeMark ++ after) i := by
  simp only [includeLine?, dropLead?_eq_some_iff.mpr rfl, List.takeWhile_eq_self_iff.mpr hafter,
    List.dropWhile_eq_nil_iff.mpr hafter] at h
  induction after using List.reverseRecOn with
  | nil => cases h
  | append_singleton most last =>
      obtain ⟨hmost, hlast⟩ := allBlank_append.mp hafter
      cases most with
      | nil => simp at h
      | cons c most =>
          simp only [List.dropLast_concat, List.getLast?_concat] at h
          cases h
          exact .blankPath (List.cons_ne_nil c most) hmost (hlast last (List.mem_singleton_self last))

theorem IncludeForm.of_includeLine? {i : IncludeLine} (h : includeLine? line = some i) :
    IncludeForm line i := by
  cases hlead : dropLead? includeMark line with
  | none => simp [includeLine?, hlead] at h
  | some after =>
      obtain rfl := dropLead?_eq_some_iff.mp hlead
      by_cases hafter : AllBlank after
      · exact .of_allBlank hafter h
      · have hblanks := allBlank_takeWhile after
        have hpath : trim after ≠ [] := fun hnil => hafter (allBlank_of_trim_eq_nil hnil)
        have htail := allBlank_rtakeWhile (after.dropWhile isBlank)
        have hrest : after.dropWhile isBlank ≠ [] := by
          rwa [Ne, List.dropWhile_eq_nil_iff]
        by_cases hne : after.takeWhile isBlank = []
        · simp [includeLine?, hlead, hne] at h
        · have hi : i = ⟨includeMark ++ after.takeWhile isBlank, trim after⟩ := by
            simp only [includeLine?, hlead, List.isEmpty_iff, if_neg hne, if_neg hrest] at h
            exact (Option.some.inj h).symm
          have hform := IncludeForm.path hne hblanks hpath (isTrimmed_trim after) htail
          rwa [takeWhile_append_trim, ← hi] at hform

theorem IncludeForm.includeLine?_eq {i : IncludeLine} (h : IncludeForm line i) :
    includeLine? line = some i := by
  cases h with
  | @path blanks path tail hne hblanks hpath htrimmed htail =>
      have hstop : ∀ c ∈ (path ++ tail).head?, isBlank c = false := by
        intro c hc
        obtain ⟨d, path, rfl⟩ := List.exists_cons_of_ne_nil hpath
        exact htrimmed.head c hc
      simp [includeLine?, dropLead?_eq_some_iff.mpr rfl, takeWhile_append_of_stop hblanks hstop,
        dropWhile_append_of_stop hblanks hstop, hne, hpath, trimRight_append htrimmed hpath htail]
  | @blankPath blanks last hne hblanks hlast =>
      have hall : AllBlank (blanks ++ [last]) :=
        allBlank_append.mpr ⟨hblanks, List.forall_mem_singleton.mpr hlast⟩
      simp [includeLine?, dropLead?_eq_some_iff.mpr rfl, List.takeWhile_eq_self_iff.mpr hall,
        List.dropWhile_eq_nil_iff.mpr hall, hne]

/-- The path stands behind what leads to it. -/
theorem IncludeForm.exists_tail {i : IncludeLine} (h : IncludeForm line i) :
    ∃ tail, line = i.lead ++ (i.path ++ tail) := by
  cases h with
  | @path blanks path tail => exact ⟨tail, (List.append_assoc ..).symm⟩
  | blankPath => exact ⟨[], by simp⟩

/-- Includes are read off exactly the lines that have their form. -/
theorem includeLine?_eq_some_iff {i : IncludeLine} :
    includeLine? line = some i ↔ IncludeForm line i :=
  ⟨.of_includeLine?, IncludeForm.includeLine?_eq⟩

theorem includeLine?_eq_none_iff : includeLine? line = none ↔ ∀ i, ¬IncludeForm line i := by
  rw [Option.eq_none_iff_forall_ne_some]
  exact forall_congr' fun i => not_congr includeLine?_eq_some_iff

/-! ### File variables -/

/-- An at-sign, the key, an equals sign and the value, all but the first two with blanks in front,
and blanks at both ends of the line. -/
inductive VariableForm : List Char → VariableLine → Prop where
  | mk {lead key gap before value after : List Char} (lead_blank : AllBlank lead) (key_ne : key ≠ [])
      (key_chars : ∀ c ∈ key, isKeyChar c = true) (gap_blank : AllBlank gap)
      (before_blank : AllBlank before) (value_trimmed : IsTrimmed value)
      (after_blank : AllBlank after) :
      VariableForm (lead ++ '@' :: (key ++ (gap ++ '=' :: (before ++ (value ++ after)))))
        ⟨key, value⟩

theorem VariableForm.of_variableLine? {v : VariableLine} (h : variableLine? line = some v) :
    VariableForm line v := by
  have hline := List.takeWhile_append_dropWhile (p := isBlank) (l := line)
  have hlead := allBlank_takeWhile line
  unfold variableLine? trimLeft at h
  split at h
  next rest hrest =>
    rw [hrest] at hline
    have hkey := List.takeWhile_append_dropWhile (p := isKeyChar) (l := rest)
    have hgap := List.takeWhile_append_dropWhile (p := isBlank) (l := rest.dropWhile isKeyChar)
    simp only at h
    split at h
    next value hvalue =>
      rw [hvalue] at hgap
      split at h
      · cases h
      next hne =>
        cases h
        obtain ⟨before, after, hsplit, hbefore, hafter⟩ := exists_eq_append_trim value
        have hform := VariableForm.mk hlead (by simpa using hne)
          (fun _ hc => List.mem_takeWhile_imp hc) (allBlank_takeWhile (rest.dropWhile isKeyChar))
          hbefore (isTrimmed_trim value) hafter
        rwa [← hsplit, hgap, hkey, hline] at hform
    · cases h
  · cases h

theorem VariableForm.variableLine?_eq {v : VariableLine} (h : VariableForm line v) :
    variableLine? line = some v := by
  cases h with
  | @mk lead key gap before value after hlead hne hkey hgap hbefore hvalue hafter =>
      have hkeyStop : ∀ c ∈ (gap ++ '=' :: (before ++ (value ++ after))).head?,
          isKeyChar c = false := by
        intro c hc
        cases gap with
        | nil =>
            obtain rfl := Option.some.inj hc
            decide
        | cons d gap =>
            obtain rfl := Option.some.inj hc
            simp [isKeyChar, hgap d (List.mem_cons_self)]
      have hgapStop : ∀ c ∈ ('=' :: (before ++ (value ++ after))).head?, isBlank c = false := by
        rintro c ⟨⟩
        decide
      have hleadStop : ∀ c ∈ ('@' :: (key ++ (gap ++ '=' :: (before ++ (value ++ after))))).head?,
          isBlank c = false := by
        rintro c ⟨⟩
        decide
      simp [variableLine?, trimLeft, dropWhile_append_of_stop hlead hleadStop,
        takeWhile_append_of_stop hkey hkeyStop, dropWhile_append_of_stop hkey hkeyStop,
        dropWhile_append_of_stop hgap hgapStop, hne, trim_append hbefore hvalue hafter]

/-- File variables are read off exactly the lines that have their form. -/
theorem variableLine?_eq_some_iff {v : VariableLine} :
    variableLine? line = some v ↔ VariableForm line v :=
  ⟨.of_variableLine?, VariableForm.variableLine?_eq⟩

theorem variableLine?_eq_none_iff : variableLine? line = none ↔ ∀ v, ¬VariableForm line v := by
  rw [Option.eq_none_iff_forall_ne_some]
  exact forall_congr' fun v => not_congr variableLine?_eq_some_iff

/-! ### Names of requests -/

/-- What a comment begins with: hashes, or slashes of which there are at least two. -/
inductive CommentMarks : List Char → Prop where
  | hashes (n : Nat) : CommentMarks (List.replicate (n + 1) '#')
  | slashes (n : Nat) : CommentMarks (List.replicate (n + 2) '/')

/-- The marks of a comment, `@name` and a word, with blanks allowed around each of them and needed
in front of the word. -/
inductive NameForm : List Char → List Char → Prop where
  | mk {lead marks gap space name tail : List Char} (lead_blank : AllBlank lead)
      (marks_marks : CommentMarks marks) (gap_blank : AllBlank gap) (space_ne : space ≠ [])
      (space_blank : AllBlank space) (name_ne : name ≠ [])
      (name_word : ∀ c ∈ name, isWordChar c = true) (tail_blank : AllBlank tail) :
      NameForm (lead ++ (marks ++ (gap ++ ("@name".toList ++ (space ++ (name ++ tail)))))) name

theorem exists_marks_of_commentText? {text : List Char} (h : commentText? line = some text) :
    ∃ lead marks, line = lead ++ (marks ++ text) ∧ AllBlank lead ∧ CommentMarks marks := by
  have hline := List.takeWhile_append_dropWhile (p := isBlank) (l := line)
  have hlead := allBlank_takeWhile line
  have hmarks : ∀ (c : Char) (rest : List Char),
      rest = List.replicate (rest.takeWhile (· == c)).length c ++ rest.dropWhile (· == c) := by
    intro c rest
    have hrun : rest.takeWhile (· == c) = List.replicate (rest.takeWhile (· == c)).length c :=
      List.eq_replicate_of_mem (fun d hd => by simpa using List.mem_takeWhile_imp hd)
    rw [← hrun, List.takeWhile_append_dropWhile]
  unfold commentText? trimLeft at h
  split at h
  · next rest hrest =>
    cases h
    refine ⟨_, _, ?_, hlead, .hashes (rest.takeWhile (· == '#')).length⟩
    rw [List.replicate_succ, List.cons_append, ← hmarks, ← hrest, hline]
  · next rest hrest =>
    cases h
    refine ⟨_, _, ?_, hlead, .slashes (rest.takeWhile (· == '/')).length⟩
    rw [List.replicate_succ, List.replicate_succ, List.cons_append, List.cons_append, ← hmarks,
      ← hrest, hline]
  · cases h

theorem commentText?_append {lead marks text : List Char} (hlead : AllBlank lead)
    (hmarks : CommentMarks marks) (hstop : ∀ c ∈ text.head?, c ≠ '#' ∧ c ≠ '/') :
    commentText? (lead ++ (marks ++ text)) = some text := by
  have hrest : ∀ (c : Char) (n : Nat), c = '#' ∨ c = '/' →
      (List.replicate n c ++ text).dropWhile (· == c) = text := by
    intro c n hc
    apply dropWhile_append_of_stop
    · intro d hd
      simpa using (List.mem_replicate.mp hd).2
    · intro d hd
      rcases hc with rfl | rfl
      · simpa using (hstop d hd).1
      · simpa using (hstop d hd).2
  cases hmarks with
  | hashes n =>
      have hstart : trimLeft (lead ++ (List.replicate (n + 1) '#' ++ text)) =
          '#' :: (List.replicate n '#' ++ text) :=
        dropWhile_append_of_stop hlead (by rintro c ⟨⟩; decide)
      simp only [commentText?, hstart, hrest '#' n (.inl rfl)]
  | slashes n =>
      have hstart : trimLeft (lead ++ (List.replicate (n + 2) '/' ++ text)) =
          '/' :: '/' :: (List.replicate n '/' ++ text) :=
        dropWhile_append_of_stop hlead (by rintro c ⟨⟩; decide)
      simp only [commentText?, hstart, hrest '/' n (.inr rfl)]

theorem NameForm.of_requestName? {name : List Char} (h : requestName? line = some name) :
    NameForm line name := by
  unfold requestName? at h
  split at h
  · cases h
  next after hafter =>
  obtain ⟨text, htext, hname⟩ := Option.bind_eq_some_iff.mp hafter
  obtain ⟨lead, marks, rfl, hlead, hmarks⟩ := exists_marks_of_commentText? htext
  have hgap := List.takeWhile_append_dropWhile (p := isBlank) (l := text)
  rw [show text.dropWhile isBlank = _ from dropLead?_eq_some_iff.mp hname] at hgap
  simp only [Bool.and_eq_true, Bool.not_eq_true', List.all_eq_true] at h
  split at h
  next hcond =>
    obtain ⟨⟨hspace, hne⟩, hword⟩ := hcond
    cases h
    have hsplit := takeWhile_append_trim after
    have hspaceNe : after.takeWhile isBlank ≠ [] := by
      cases after with
      | nil => cases hspace
      | cons c after => simp [show isBlank c = true from hspace]
    have hform := NameForm.mk hlead hmarks (allBlank_takeWhile text) hspaceNe
      (allBlank_takeWhile after) (by simpa using hne) hword
      (allBlank_rtakeWhile (after.dropWhile isBlank))
    rwa [hsplit, hgap] at hform
  · cases h

theorem NameForm.requestName?_eq {name : List Char} (h : NameForm line name) :
    requestName? line = some name := by
  cases h with
  | @mk lead marks gap space _ tail hlead hmarks hgap hspaceNe hspace hne hword htail =>
      have hstop : ∀ c ∈ (gap ++ ("@name".toList ++ (space ++ (name ++ tail)))).head?,
          c ≠ '#' ∧ c ≠ '/' := by
        intro c hc
        cases gap with
        | nil =>
            obtain rfl := Option.some.inj hc
            decide
        | cons d gap =>
            obtain rfl := Option.some.inj hc
            have hblank := hgap d List.mem_cons_self
            constructor
            · rintro rfl
              exact absurd hblank (by decide)
            · rintro rfl
              exact absurd hblank (by decide)
      have hat : trimLeft (gap ++ ("@name".toList ++ (space ++ (name ++ tail)))) =
          "@name".toList ++ (space ++ (name ++ tail)) :=
        dropWhile_append_of_stop hgap (by rintro c ⟨⟩; decide)
      have hfirst : ((space ++ (name ++ tail)).head?.map isBlank).getD false = true := by
        obtain ⟨c, space, rfl⟩ := List.exists_cons_of_ne_nil hspaceNe
        exact hspace c List.mem_cons_self
      have htrim : trim (space ++ (name ++ tail)) = name :=
        trim_append hspace (isTrimmed_of_forall_isWordChar hword) htail
      have hall : name.all isWordChar = true := List.all_eq_true.mpr hword
      simp only [requestName?, commentText?_append hlead hmarks hstop, Option.bind_some, hat,
        dropLead?_eq_some_iff.mpr rfl, htrim, hfirst, hall]
      simp [hne]

/-- Names are read off exactly the lines that have the form of one. -/
theorem requestName?_eq_some_iff {name : List Char} :
    requestName? line = some name ↔ NameForm line name :=
  ⟨.of_requestName?, NameForm.requestName?_eq⟩

theorem requestName?_eq_none_iff : requestName? line = none ↔ ∀ name, ¬NameForm line name := by
  rw [Option.eq_none_iff_forall_ne_some]
  exact forall_congr' fun name => not_congr requestName?_eq_some_iff

/-! ### Forms that exclude each other -/

theorem isBlankLine_of_isBoundary (h : isBoundary line = true) : isBlankLine line = false := by
  rw [isBoundary, Bool.or_eq_true, List.isPrefixOf_iff_prefix, List.isPrefixOf_iff_prefix] at h
  rcases h with ⟨rest, rfl⟩ | ⟨rest, rfl⟩
  · rfl
  · rfl

theorem IncludeForm.head?_eq {i : IncludeLine} (h : IncludeForm line i) :
    line.head? = some '@' := by
  cases h with
  | path => rfl
  | blankPath => rfl

theorem isBoundary_of_head? (h : line.head? = some '@') : isBoundary line = true := by
  obtain ⟨rest, rfl⟩ := List.head?_eq_some_iff.mp h
  rfl

/-- The other boundaries are comments. -/
theorem head?_of_isBoundary (h : isBoundary line = true) (hcomment : isComment line = false) :
    line.head? = some '@' := by
  rw [isBoundary, Bool.or_eq_true, List.isPrefixOf_iff_prefix, List.isPrefixOf_iff_prefix] at h
  rcases h with ⟨rest, rfl⟩ | ⟨rest, rfl⟩
  · rfl
  · cases hcomment

theorem isBoundary_eq_false_of_isComment (hcomment : isComment line = true)
    (hmark : ¬"###".toList <+: line) : isBoundary line = false := by
  by_contra hboundary
  rw [Bool.not_eq_false, isBoundary, Bool.or_eq_true, List.isPrefixOf_iff_prefix,
    List.isPrefixOf_iff_prefix] at hboundary
  rcases hboundary with ⟨rest, rfl⟩ | hprefix
  · cases hcomment
  · exact hmark hprefix

theorem includeLine?_eq_none_of_not_isBoundary (h : isBoundary line = false) :
    includeLine? line = none := by
  rw [Option.eq_none_iff_forall_ne_some]
  intro i hi
  have hboundary := isBoundary_of_head? (includeLine?_eq_some_iff.mp hi).head?_eq
  exact Bool.false_ne_true (h.symm.trans hboundary)

theorem trimLeft_eq_nil (h : isBlankLine line = true) : trimLeft line = [] := by
  rw [trimLeft, List.dropWhile_eq_nil_iff]
  exact isBlankLine_iff.mp h

theorem isBlankLine_of_isComment (h : isComment line = true) : isBlankLine line = false := by
  by_contra hblank
  have hnil := trimLeft_eq_nil (by simpa using hblank)
  simp [isComment, hnil] at h

theorem isComment_eq_false_of_isBlankLine (h : isBlankLine line = true) :
    isComment line = false := by
  by_contra hcomment
  rw [isBlankLine_of_isComment (by simpa using hcomment)] at h
  cases h

theorem variableLine?_eq_none_of_isBlankLine (h : isBlankLine line = true) :
    variableLine? line = none := by
  simp only [variableLine?, trimLeft_eq_nil h]

theorem variableLine?_eq_none_of_isComment (h : isComment line = true) :
    variableLine? line = none := by
  unfold variableLine?
  split
  · next rest hat => simp [isComment, hat] at h
  · rfl

theorem isComment_of_requestName? {name : List Char} (h : requestName? line = some name) :
    isComment line = true := by
  unfold requestName? commentText? at h
  unfold isComment
  split at h
  · cases h
  next hafter =>
    split at hafter
    · rfl
    · rfl
    · cases hafter

theorem requestName?_eq_none_of_not_isComment (h : isComment line = false) :
    requestName? line = none := by
  rw [Option.eq_none_iff_forall_ne_some]
  intro name hname
  rw [isComment_of_requestName? hname] at h
  cases h

end HttpScript.Script
