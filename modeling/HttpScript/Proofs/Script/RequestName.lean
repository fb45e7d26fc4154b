/-
Module: HttpScript.Proofs.Script.RequestName
Purpose: What a stretch between two boundaries holds, and whose name its request has: the last one
  that a comment of the stretch gives, wherever the comment stands.  No name reaches a request across
  a boundary.
Main exports: blockName?_eq_some_iff, blockName?_blockOf, Directive.touches,
  filter_touches_directives, scan_stretch
-/
import HttpScript.Proofs.Script.Coverage

namespace HttpScript.Script

open Text

variable {lines before stretch after : List NumberedLine} {line : NumberedLine}

/-! ### The last name -/

/-- The last result comes from the last element that has one. -/
theorem getLast?_filterMap_eq_some_iff {α β : Type} {f : α → Option β} {l : List α} {b : β} :
    (l.filterMap f).getLast? = some b ↔
      ∃ front a back, l = front ++ a :: back ∧ f a = some b ∧ ∀ a' ∈ back, f a' = none := by
  rw [List.getLast?_eq_some_iff]
  constructor
  · rintro ⟨results, h⟩
    obtain ⟨front, rest, rfl, -, hrest⟩ := List.filterMap_eq_append_iff.mp h
    obtain ⟨skipped, a, back, rfl, -, ha, hback⟩ := List.filterMap_eq_cons_iff.mp hrest
    refine ⟨front ++ skipped, a, back, by simp, ha, List.filterMap_eq_nil_iff.mp hback⟩
  · rintro ⟨front, a, back, rfl, ha, hback⟩
    refine ⟨front.filterMap f, ?_⟩
    rw [List.filterMap_append, List.filterMap_cons_some ha, List.filterMap_eq_nil_iff.mpr hback]

/-- The name is the one that the last naming comment gives. -/
theorem blockName?_eq_some_iff {name : String} : blockName? lines = some name ↔
    ∃ front l back, lines = front ++ l :: back ∧ NameForm l.2 name.toList ∧
      ∀ l' ∈ back, ∀ other, ¬NameForm l'.2 other := by
  have hlast : blockName? lines = some name ↔
      (lines.filterMap (fun l => requestName? l.2)).getLast? = some name.toList := by
    rw [blockName?, Option.map_eq_some_iff]
    constructor
    · rintro ⟨chars, h, rfl⟩
      rw [h, String.toList_ofList]
    · intro h
      exact ⟨name.toList, h, String.ofList_toList⟩
  simp only [hlast, getLast?_filterMap_eq_some_iff, requestName?_eq_some_iff,
    requestName?_eq_none_iff]

theorem blockName?_eq_none_iff :
    blockName? lines = none ↔ ∀ l ∈ lines, ∀ name, ¬NameForm l.2 name := by
  simp only [blockName?, Option.map_eq_none_iff, List.getLast?_eq_none_iff,
    List.filterMap_eq_nil_iff, requestName?_eq_none_iff]

/-- In front of the block of a stretch there are no comments, and so no names. -/
theorem blockName?_blockOf (stretch : List NumberedLine) :
    blockName? (blockOf stretch) = blockName? stretch := by
  have hpassed : (passed stretch).filterMap (fun l => requestName? l.2) = [] := by
    rw [List.filterMap_eq_nil_iff]
    intro l hl
    apply requestName?_eq_none_of_not_isComment
    by_contra hcomment
    have hopens := opensBlock_of_isComment (by simpa using hcomment)
    rw [opensBlock_of_mem_passed hl] at hopens
    cases hopens
  rw [blockName?, blockName?]
  nth_rewrite 2 [← passed_append_blockOf stretch]
  rw [List.filterMap_append, hpassed, List.nil_append]

/-! ### The directives of a stretch -/

/-- Whether a directive has one of some lines among its own. -/
def Directive.touches (d : Directive) (lines : List NumberedLine) : Bool :=
  lines.any (fun l => d.covers l.1)

variable {d : Directive}

/-- A directive is found among the lines it comes from, and among no others. -/
theorem ReadFrom.touches (h : ReadFrom lines d) : d.touches lines = true := by
  obtain ⟨first, hfirst, last, -, hle, hrange⟩ := h.exists_ends
  rw [Directive.touches, List.any_eq_true]
  refine ⟨first, hfirst, covers_iff.mpr ?_⟩
  rw [hrange]
  exact ⟨Nat.le_refl _, hle⟩

theorem ReadFrom.not_touches_after (h : ReadFrom lines d)
    (hlt : ∀ l ∈ lines, ∀ l' ∈ after, l.1 < l'.1) : d.touches after = false := by
  obtain ⟨first, -, last, hlast, -, hrange⟩ := h.exists_ends
  rw [Directive.touches, List.any_eq_false]
  intro l hl hcovers
  rw [covers_iff, hrange] at hcovers
  exact Nat.not_lt.mpr hcovers.2 (hlt last hlast l hl)

theorem ReadFrom.not_touches_before (h : ReadFrom lines d)
    (hlt : ∀ l ∈ before, ∀ l' ∈ lines, l.1 < l'.1) : d.touches before = false := by
  obtain ⟨first, hfirst, last, -, -, hrange⟩ := h.exists_ends
  rw [Directive.touches, List.any_eq_false]
  intro l hl hcovers
  rw [covers_iff, hrange] at hcovers
  exact Nat.not_lt.mpr hcovers.1 (hlt l hl first hfirst)

/-- The directives that have lines of a stretch are those of the stretch by itself. -/
theorem filter_touches_directives (hlines : Increasing (before ++ (stretch ++ after)))
    (hbefore : ToBoundary before) (hafter : FromBoundary after) :
    (directives (before ++ (stretch ++ after))).filter (·.touches stretch) =
      directives stretch := by
  obtain ⟨hincreasing, hrest, hfront⟩ := List.pairwise_append.mp hlines
  obtain ⟨hstretch, hincreasing', hback⟩ := List.pairwise_append.mp hrest
  have hnone : (directives before).filter (·.touches stretch) = [] := by
    rw [List.filter_eq_nil_iff]
    intro d hd
    rw [(readFrom_of_mem hincreasing hd).not_touches_after
      (fun l hl l' hl' => hfront l hl l' (List.mem_append_left _ hl'))]
    exact Bool.false_ne_true
  have hnone' : (directives after).filter (·.touches stretch) = [] := by
    rw [List.filter_eq_nil_iff]
    intro d hd
    rw [(readFrom_of_mem hincreasing' hd).not_touches_before hback]
    exact Bool.false_ne_true
  have hall : (directives stretch).filter (·.touches stretch) = directives stretch := by
    rw [List.filter_eq_self]
    intro d hd
    exact (readFrom_of_mem hstretch hd).touches
  rw [directives_append_stretch hbefore hafter, List.filter_append, List.filter_append, hnone,
    hnone', hall, List.nil_append, List.append_nil]

theorem name_of_block? {block : List NumberedLine} {b : RequestBlock} (h : block? block = some b) :
    b.name = blockName? block := by
  obtain ⟨-, rfl⟩ := exists_retained_of_block? h
  rfl

/-- A file variable that is no boundary is indented. -/
theorem exists_blank_of_fileVariable? {v : FileVariable} (h : fileVariable? line = some v)
    (hboundary : isBoundary line.2 = false) : ∃ c rest, line.2 = c :: rest ∧ isBlank c = true := by
  obtain ⟨form, hform, -⟩ := Option.map_eq_some_iff.mp h
  generalize line.2 = text at hform hboundary
  cases variableLine?_eq_some_iff.mp hform with
  | @mk lead _ _ _ _ _ hlead =>
      cases lead with
      | nil =>
          rw [isBoundary_of_head? rfl] at hboundary
          cases hboundary
      | cons c lead => exact ⟨c, _, rfl, hlead c List.mem_cons_self⟩

/-- What a script says between two boundaries, or between a boundary and one of its ends: first file
variables, all indented, and then one request at most.  These directives keep to the stretch, and the
request has the last name that a comment of the stretch gives, if there is one. -/
theorem scan_stretch (text : String)
    (hsplit : numberedLines 0 text.toList = before ++ (stretch ++ after))
    (hbefore : ToBoundary before) (hnone : NoBoundary stretch) (hafter : FromBoundary after) :
    ∃ (indented : List FileVariable) (request : Option RequestBlock),
      (scan text).filter (·.touches stretch) =
        indented.map .variable ++ (request.map .request).toList ∧
      (∀ d ∈ (scan text).filter (·.touches stretch), ∃ first ∈ stretch, ∃ last ∈ stretch,
        d.range.start.line = first.1 ∧ d.range.stop.line = last.1) ∧
      (∀ v ∈ indented, ∃ l ∈ stretch, fileVariable? l = some v ∧
        ∃ c rest, l.2 = c :: rest ∧ isBlank c = true) ∧
      (∀ v ∈ indented, ∀ b ∈ request, v.range.stop.line < b.range.start.line) ∧
      ∀ b ∈ request,
        (∀ name, b.name = some name ↔ ∃ front l back, stretch = front ++ l :: back ∧
          NameForm l.2 name.toList ∧ ∀ l' ∈ back, ∀ other, ¬NameForm l'.2 other) ∧
        (b.name = none ↔ ∀ l ∈ stretch, ∀ name, ¬NameForm l.2 name) := by
  have hlines := increasing_numberedLines 0 text.toList
  rw [hsplit] at hlines
  have hstretch : Increasing stretch :=
    (List.pairwise_append.mp (List.pairwise_append.mp hlines).2.1).1
  have htouch : (scan text).filter (·.touches stretch) = directives stretch := by
    rw [scan, hsplit, filter_touches_directives hlines hbefore hafter]
  have hread := directives_stretch hnone
  have hordered := pairwise_directives hstretch
  rw [hread, List.pairwise_append] at hordered
  refine ⟨(passed stretch).filterMap fileVariable?, block? (blockOf stretch), ?_, ?_, ?_, ?_, ?_⟩
  · rw [htouch, hread]
  · rw [htouch]
    intro d hd
    obtain ⟨first, hfirst, last, hlast, -, hrange⟩ := (readFrom_of_mem hstretch hd).exists_ends
    exact ⟨first, hfirst, last, hlast, by rw [hrange], by rw [hrange]⟩
  · intro v hv
    obtain ⟨l, hl, hv⟩ := List.mem_filterMap.mp hv
    have hmem := mem_of_mem_passed hl
    exact ⟨l, hmem, hv, exists_blank_of_fileVariable? hv (hnone l hmem)⟩
  · intro v hv b hb
    exact hordered.2.2 _ (List.mem_map_of_mem hv) (.request b) (by rw [Option.mem_def.mp hb]; simp)
  · intro b hb
    have hname : b.name = blockName? stretch := by
      rw [name_of_block? hb, blockName?_blockOf]
    rw [hname]
    exact ⟨fun name => blockName?_eq_some_iff, blockName?_eq_none_iff⟩

/-- Three names, of which one stands across a boundary and two beside the request. -/
def namedTwice : String :=
  "# @name early\n###\n  @id = 7\n\n# @name first\nGET https://a.example\n// @name second\n@id = 8"

/-- The lines of `namedTwice` between its two boundaries. -/
def namedTwiceStretch : List NumberedLine := [
  (2, "  @id = 7".toList), (3, []), (4, "# @name first".toList),
  (5, "GET https://a.example".toList), (6, "// @name second".toList)]

/-- The comment behind the request has the last word. -/
theorem scan_stretch_namedTwice :
    numberedLines 0 namedTwice.toList = (numberedLines 0 namedTwice.toList).take 2 ++
      (namedTwiceStretch ++ (numberedLines 0 namedTwice.toList).drop 7) ∧
    ToBoundary ((numberedLines 0 namedTwice.toList).take 2) ∧ NoBoundary namedTwiceStretch ∧
    FromBoundary ((numberedLines 0 namedTwice.toList).drop 7) ∧
    ∃ b, .request b ∈ (scan namedTwice).filter (·.touches namedTwiceStretch) ∧
      b.name = some "second" := by
  have hsplit : numberedLines 0 namedTwice.toList = (numberedLines 0 namedTwice.toList).take 2 ++
      (namedTwiceStretch ++ (numberedLines 0 namedTwice.toList).drop 7) := by
    decide
  have hbefore : ToBoundary ((numberedLines 0 namedTwice.toList).take 2) := by decide
  have hnone : NoBoundary namedTwiceStretch := by decide
  have hafter : FromBoundary ((numberedLines 0 namedTwice.toList).drop 7) := by decide
  have hname : NameForm "// @name second".toList "second".toList :=
    requestName?_eq_some_iff.mp (by decide)
  have hmem : .request ⟨.onLine 5 0 21, "GET https://a.example", some "second"⟩ ∈
      (scan namedTwice).filter (·.touches namedTwiceStretch) := by
    decide +kernel
  obtain ⟨indented, request, hfilter, -, -, -, hnames⟩ :=
    scan_stretch namedTwice hsplit hbefore hnone hafter
  have hrequest : ⟨.onLine 5 0 21, "GET https://a.example", some "second"⟩ ∈ request := by
    simpa [hfilter] using hmem
  exact ⟨hsplit, hbefore, hnone, hafter, _, hmem, ((hnames _ hrequest).1 "second").mpr
    ⟨namedTwiceStretch.take 4, _, [], rfl, hname, fun _ hl => nomatch hl⟩⟩

end HttpScript.Script
