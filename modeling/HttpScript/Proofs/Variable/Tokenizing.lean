/-
Module: HttpScript.Proofs.Variable.Tokenizing
Purpose: The references of a text are the tokens that one finds by reading each of its lines from
  left to right: again and again the leftmost place, behind all that was found before, where a
  reference begins.  Every reference is found once, and grouping by name keeps them all.
Main exports: Tokenized, Reference.ofToken, TokenizedLines, tokenizedLines_iff, exists_ofToken,
  References.Groups, references_tokenized
-/
import HttpScript.Proofs.Variable.Grouping
import HttpScript.Proofs.Variable.Occurrence
import HttpScript.Proofs.Variable.ReferencePattern
import HttpScript.Proofs.Variable.TokenForm

namespace HttpScript.Variable

open Text

/-! ### One line -/

/-- The tokens of a line from a position on, each with the position where it begins. -/
inductive Tokenized (line : List Char) : Nat → List (Nat × Token) → Prop where
  | done {start : Nat} (nothing : ∀ i, start ≤ i → ∀ t, ¬TokenForm (line.drop i) t) :
      Tokenized line start []
  | token {start i : Nat} {t : Token} {found : List (Nat × Token)} (start_le : start ≤ i)
      (form : TokenForm (line.drop i) t)
      (leftmost : ∀ j, start ≤ j → j < i → ∀ t', ¬TokenForm (line.drop j) t')
      (more : Tokenized line (i + t.text.length) found) :
      Tokenized line start ((i, t) :: found)

variable {line : List Char} {start : Nat} {found found' : List (Nat × Token)}

theorem Tokenized.unique (h : Tokenized line start found) (h' : Tokenized line start found') :
    found = found' := by
  induction h generalizing found' with
  | done hnothing =>
      cases h' with
      | done => rfl
      | token hle hform => exact (hnothing _ hle _ hform).elim
  | @token start i t found hle hform hleftmost _ ih =>
      cases h' with
      | done hnothing => exact (hnothing _ hle _ hform).elim
      | @token _ i' t' found' hle' hform' hleftmost' hmore' =>
          obtain rfl : i = i' := by
            apply Nat.le_antisymm
            · exact Nat.le_of_not_lt fun hlt => hleftmost i' hle' hlt t' hform'
            · exact Nat.le_of_not_lt fun hlt => hleftmost' i hle hlt t hform
          obtain rfl := hform.unique hform'
          rw [ih hmore']

/-- A position where nothing begins can be passed over. -/
theorem Tokenized.skip (h : Tokenized line (start + 1) found)
    (hnothing : ∀ t, ¬TokenForm (line.drop start) t) : Tokenized line start found := by
  have hpassed : ∀ j, start ≤ j → j < start + 1 → ∀ t, ¬TokenForm (line.drop j) t := by
    intro j hle hlt
    obtain rfl : j = start := by omega
    exact hnothing
  cases h with
  | done hrest =>
      apply Tokenized.done
      intro i hle
      by_cases hlt : i < start + 1
      · exact hpassed i hle hlt
      · exact hrest i (by omega)
  | token hle hform hleftmost hmore =>
      refine .token (by omega) hform ?_ hmore
      intro j hj hlt
      by_cases hjs : j < start + 1
      · exact hpassed j hj hjs
      · exact hleftmost j (by omega) hlt

theorem Tokenized.form (h : Tokenized line start found) {i : Nat} {t : Token}
    (hmem : (i, t) ∈ found) : TokenForm (line.drop i) t := by
  induction h with
  | done => cases hmem
  | token _ hform _ _ ih =>
      rcases List.mem_cons.mp hmem with heq | hmem
      · cases heq
        exact hform
      · exact ih hmem

/-- The reference that a token at a position of a line is. -/
def Reference.ofToken (n : Nat) (line : List Char) (i : Nat) (t : Token) : Reference where
  name := String.ofList t.name
  text := String.ofList t.text
  line := n
  range := .span n (line.take i ++ Token.opening) t.name

/-- What is found from a column on are the tokens from the position of that column on. -/
theorem exists_tokenized (n : Nat) (before s : List Char) :
    ∃ found, Tokenized (before ++ s) before.length found ∧
      referencesFrom n (units before) s =
        found.map (fun f => .ofToken n (before ++ s) f.1 f.2) := by
  generalize hcolumn : units before = column
  fun_induction referencesFrom n column s generalizing before with
  | case1 column =>
      refine ⟨[], .done ?_, rfl⟩
      intro i hle t
      rw [List.append_nil, List.drop_eq_nil_of_le hle]
      exact not_tokenForm_nil
  | case2 column c rest t htoken start ih =>
      have hparts := token?_eq htoken
      obtain ⟨found, hfound, heq⟩ := ih (before ++ t.text) (by rw [units_append, hcolumn])
      rw [List.append_assoc, ← hparts] at hfound heq
      rw [List.length_append] at hfound
      refine ⟨(before.length, t) :: found, .token (Nat.le_refl _) ?_ ?_ hfound, ?_⟩
      · rw [List.drop_left]
        exact .of_token? htoken
      · intro j hle hlt
        omega
      · rw [List.map_cons, ← heq]
        simp only [Reference.ofToken, List.take_left, Range.span, units_append, hcolumn]
        rfl
  | case3 column c rest hnone ih =>
      obtain ⟨found, hfound, heq⟩ := ih (before ++ [c]) (by simp [hcolumn])
      rw [List.append_assoc, List.singleton_append] at hfound heq
      rw [List.length_append, List.length_singleton] at hfound
      refine ⟨found, hfound.skip ?_, heq⟩
      rw [List.drop_left]
      exact token?_eq_none_iff.mp hnone

/-! ### A text -/

/-- The references of some lines that are numbered from `n` on. -/
inductive TokenizedLines : Nat → List (List Char) → List Reference → Prop where
  | nil {n : Nat} : TokenizedLines n [] []
  | cons {n : Nat} {line : List Char} {lines : List (List Char)} {found : List (Nat × Token)}
      {rs : List Reference} (first : Tokenized line 0 found)
      (others : TokenizedLines (n + 1) lines rs) :
      TokenizedLines n (line :: lines) (found.map (fun f => .ofToken n line f.1 f.2) ++ rs)

variable {n : Nat} {lines : List (List Char)} {rs rs' : List Reference}

theorem TokenizedLines.unique (h : TokenizedLines n lines rs) (h' : TokenizedLines n lines rs') :
    rs = rs' := by
  induction h generalizing rs' with
  | nil =>
      cases h'
      rfl
  | cons hfirst _ ih =>
      cases h' with
      | cons hfirst' hothers' => rw [hfirst.unique hfirst', ih hothers']

theorem tokenizedLines_flatMap (n : Nat) (lines : List (List Char)) :
    TokenizedLines n lines ((lines.zipIdx n).flatMap (fun l => referencesFrom l.2 0 l.1)) := by
  induction lines generalizing n with
  | nil => exact .nil
  | cons line lines ih =>
      obtain ⟨found, hfound, heq⟩ := exists_tokenized n [] line
      rw [List.zipIdx_cons, List.flatMap_cons]
      rw [units_nil, List.nil_append] at heq
      rw [heq]
      exact .cons hfound (ih (n + 1))

/-- Reading the lines of a text gives its references and nothing else. -/
theorem tokenizedLines_iff (text : String) (rs : List Reference) :
    TokenizedLines 0 (pieces text.toList) rs ↔ rs = occurrences text := by
  constructor
  · intro h
    exact h.unique (tokenizedLines_flatMap 0 _)
  · rintro rfl
    exact tokenizedLines_flatMap 0 _

theorem TokenizedLines.exists_ofToken (h : TokenizedLines n lines rs) {r : Reference}
    (hr : r ∈ rs) : ∃ m line i t, lines[m]? = some line ∧ TokenForm (line.drop i) t ∧
      r = .ofToken (n + m) line i t := by
  induction h with
  | nil => cases hr
  | @cons n line lines found rs hfirst _ ih =>
      rcases List.mem_append.mp hr with hr | hr
      · obtain ⟨⟨i, t⟩, hmem, rfl⟩ := List.mem_map.mp hr
        exact ⟨0, line, i, t, rfl, hfirst.form hmem, rfl⟩
      · obtain ⟨m, line', i, t, hline, hform, heq⟩ := ih hr
        refine ⟨m + 1, line', i, t, hline, hform, ?_⟩
        rw [heq, Nat.add_assoc, Nat.add_comm 1 m]

/-- Every reference of a text is a token of the line that its number says. -/
theorem exists_ofToken {text : String} {r : Reference} (h : r ∈ occurrences text) :
    ∃ line i t, (pieces text.toList)[r.line]? = some line ∧ TokenForm (line.drop i) t ∧
      r = .ofToken r.line line i t := by
  obtain ⟨m, line, i, t, hline, hform, rfl⟩ :=
    ((tokenizedLines_iff text _).mpr rfl).exists_ofToken h
  rw [Nat.zero_add]
  exact ⟨line, i, t, hline, hform, rfl⟩

/-! ### Grouped by name -/

/-- References grouped by name.  None is lost or repeated.  Names come once, in the order of their
first references; under a name stand the references to it, in the order of their positions; and
asking for a name gives what going through all of them shows. -/
structure References.Groups (groups : References) (rs : List Reference) : Prop where
  perm : groups.ungrouped.Perm rs
  nodup_names : (groups.groups.map (·.1)).Nodup
  mem_names : ∀ name, name ∈ groups.groups.map (·.1) ↔ ∃ r ∈ rs, r.name = name
  ordered_names : (groups.groups.map (·.1)).Pairwise
    (fun a b => (rs.map (·.name)).idxOf a < (rs.map (·.name)).idxOf b)
  ne_nil : ∀ group ∈ groups.groups, group.2 ≠ []
  eq_filter : ∀ group ∈ groups.groups, group.2 = rs.filter (fun r => r.name = group.1)
  ordered : ∀ group ∈ groups.groups,
    group.2.Pairwise (fun r r' => r.range.start.Before r'.range.start)
  get?_eq_some_iff : ∀ name group,
    groups.get? name = some group ↔ (name, group) ∈ groups.groups

theorem groups_references (text : String) : (references text).Groups (occurrences text) := by
  have hnames : (references text).groups.map (·.1) = firstNames (occurrences text) := by
    rw [references, groups_ofList, List.map_map]
    exact List.map_id _
  refine {
    perm := perm_ungrouped_ofList (occurrences text)
    nodup_names := hnames ▸ nodup_firstNames _
    mem_names := fun name => hnames ▸ mem_firstNames
    ordered_names := hnames ▸ pairwise_idxOf_eraseDups _
    ne_nil := ?_
    eq_filter := fun group hgroup => (mem_groups_ofList.mp hgroup).2
    ordered := ?_
    get?_eq_some_iff := fun name group => get?_ofList_eq_some_iff }
  · intro group hgroup hnil
    obtain ⟨hname, heq⟩ := mem_groups_ofList.mp hgroup
    obtain ⟨r, hr, hrname⟩ := mem_firstNames.mp hname
    have hmem : r ∈ group.2 := heq ▸ mem_named.mpr ⟨hr, hrname⟩
    rw [hnil] at hmem
    cases hmem
  · intro group hgroup
    rw [(mem_groups_ofList.mp hgroup).2]
    exact (pairwise_start_occurrences text).filter _

/-- The references of a text are the tokens of its lines in reading order.  The lines are the pieces
between line feeds, which have the numbers of the lines of the text.  At each place of a line the
token that begins there, if any, is the match that the pattern of references prefers.  Grouping the
references by name keeps all of them. -/
theorem references_tokenized (text : String) :
    (∀ rs, TokenizedLines 0 (pieces text.toList) rs ↔ rs = occurrences text) ∧
    (∀ n : Nat, (Text.lines text.toList)[n]? = (pieces text.toList)[n]? ∨
      (∃ piece, (pieces text.toList)[n]? = some piece ∧
        (Text.lines text.toList)[n]? = some (piece ++ ['\r'])) ∨
      ((pieces text.toList)[n]? = some [] ∧ (Text.lines text.toList)[n]? = none)) ∧
    (∀ piece ∈ pieces text.toList, ∀ i, (referenceMatches (piece.drop i)).head? =
      (token? (piece.drop i)).map (fun t => (t.path ++ (Token.closing ++ t.after), t.after))) ∧
    (references text).Groups (occurrences text) := by
  refine ⟨tokenizedLines_iff text, getElem?_lines text.toList, ?_, groups_references text⟩
  intro piece hpiece i
  apply head?_referenceMatches
  intro hmem
  exact notMem_of_mem_pieces hpiece (List.mem_of_mem_drop hmem)

/-- Lines with more braces than references: some belong to none, some are part of a path. -/
def nestedBraces : String :=
  "\x7b\x7b\x7ba\x7d\x7d \x7b\x7ba \x7b\x7bb.c\x7d\x7d\x7d\r\n\x7b\x7bb.\x7b\x7bd\x7d\x7d"

def nestedReferences : List Reference := [
  ⟨"a", "\x7b\x7ba\x7d\x7d", 0, .onLine 0 3 4⟩,
  ⟨"b", "\x7b\x7bb.c\x7d\x7d", 0, .onLine 0 13 14⟩,
  ⟨"b", "\x7b\x7bb.\x7b\x7bd\x7d\x7d", 1, .onLine 1 2 3⟩]

/-- A path ends at the first closing braces and may hold opening ones. -/
theorem references_tokenized_nested :
    TokenizedLines 0 (pieces nestedBraces.toList) nestedReferences ∧
    (∃ piece ∈ pieces nestedBraces.toList, (referenceMatches (piece.drop 11)).head? =
      some (".c\x7d\x7d\x7d".toList, "\x7d".toList)) ∧
    (references nestedBraces).Groups nestedReferences := by
  have hfound : nestedReferences = occurrences nestedBraces := by decide +kernel
  have hpiece : "\x7b\x7b\x7ba\x7d\x7d \x7b\x7ba \x7b\x7bb.c\x7d\x7d\x7d".toList ∈
      pieces nestedBraces.toList := by
    decide
  obtain ⟨htokens, -, hmatches, hgroups⟩ := references_tokenized nestedBraces
  refine ⟨(htokens _).mpr hfound, ⟨_, hpiece, ?_⟩, hfound ▸ hgroups⟩
  rw [hmatches _ hpiece 11]
  decide

end HttpScript.Variable
