/-
Module: HttpScript.Proofs.Variable.ReferenceText
Purpose: What a reference says of itself and where it stands.  Its text is made of its name and its
  path, its range cuts the name out of its line behind opening braces, and no two references share
  a part of a line.  A name and a path written between braces are read back as they are.
Main exports: Reference.path_ofToken, Reference.StandsIn, Range.Apart,
  occurrences_writtenToken, references_read_back
-/
import HttpScript.Proofs.Text.CodeUnit
import HttpScript.Proofs.Variable.Tokenizing

namespace HttpScript

/-- One range ends in front of the other. -/
def Range.Apart (a b : Range) : Prop :=
  a.stop.Before b.start ∨ b.stop.Before a.start

namespace Variable

open Text

/-! ### Name and path -/

section Parts

variable {n i : Nat} {line s : List Char} {t : Token}

/-- The path of a reference is what its token has behind the dot. -/
theorem Reference.path_ofToken (h : TokenForm s t) :
    (Reference.ofToken n line i t).path = String.ofList t.path.tail := by
  have hopening : dropLead? Token.opening t.text = some (t.name ++ t.path ++ Token.closing) :=
    dropLead?_eq_some_iff.mpr (by simp [Token.text])
  have hclosing := dropTail?_append (t.name ++ t.path) Token.closing
  have hname : dropLead? t.name (t.name ++ t.path) = some t.path := dropLead?_eq_some_iff.mpr rfl
  simp only [Reference.path, Reference.ofToken, String.toList_ofList, hopening, Option.bind_some,
    hclosing, Option.getD_some, hname]
  rcases h.path_eq with hpath | ⟨path, hpath⟩
  · rw [hpath]
    rfl
  · rw [hpath, dropLead?_eq_some_iff.mpr (List.singleton_append ..)]
    rfl

/-- The text of a reference is its name between braces, or its name, a dot and its path. -/
theorem Reference.text_ofToken (h : TokenForm s t) :
    let r := Reference.ofToken n line i t
    (r.text = .ofList Token.opening ++ r.name ++ .ofList Token.closing ∧ r.path = "") ∨
      r.text = .ofList Token.opening ++ r.name ++ "." ++ r.path ++ .ofList Token.closing := by
  intro r
  have hpath : r.path = String.ofList t.path.tail := Reference.path_ofToken h
  rw [hpath]
  rcases h.path_eq with hnil | ⟨path, hdot⟩
  · refine .inl ⟨?_, by rw [hnil]; rfl⟩
    simp [r, Reference.ofToken, Token.text, hnil, String.append_assoc]
  · refine .inr ?_
    have hone : "." = String.ofList ['.'] := rfl
    rw [hdot, hone]
    simp only [r, Reference.ofToken, Token.text, hdot, List.tail_cons, ← String.ofList_append]
    simp

end Parts

/-! ### Place -/

/-- The range of a reference is on its line and cuts its name out of it, and in front of the name
stand opening braces. -/
structure Reference.StandsIn (r : Reference) (line : List Char) : Prop where
  start_line : r.range.start.line = r.line
  stop_line : r.range.stop.line = r.line
  name_eq : (utf16 line).extract r.range.start.character r.range.stop.character =
    utf16 r.name.toList
  opening_eq : (utf16 line).extract (r.range.start.character - 2) r.range.start.character =
    utf16 Token.opening

theorem Reference.standsIn_of_range {r : Reference} {before rest : List Char}
    (h : r.range = .span r.line (before ++ Token.opening) r.name.toList) :
    r.StandsIn (before ++ (Token.opening ++ (r.name.toList ++ rest))) := by
  have hcolumn : units (before ++ Token.opening) - 2 = units before := by
    rw [units_append]
    exact Nat.add_sub_cancel _ 2
  refine ⟨by rw [h]; rfl, by rw [h]; rfl, ?_, ?_⟩
  · rw [h, ← List.append_assoc]
    exact extract_utf16 (before ++ Token.opening) r.name.toList rest
  · rw [h]
    simp only [Range.span, Range.onLine, hcolumn]
    rw [units_append]
    exact extract_utf16 before Token.opening (r.name.toList ++ rest)

/-- A reference stands in the line of its number, whether the line keeps a carriage return at the end
of the text or not. -/
theorem exists_standsIn {text : String} {r : Reference} (h : r ∈ occurrences text) :
    (∃ piece, (pieces text.toList)[r.line]? = some piece ∧ r.StandsIn piece) ∧
      ∃ line, (Text.lines text.toList)[r.line]? = some line ∧ r.StandsIn line := by
  obtain ⟨piece, i, t, hpiece, hform, heq⟩ := exists_ofToken h
  have hrange : r.range = .span r.line (piece.take i ++ Token.opening) r.name.toList := by
    rw [heq]
    simp only [Reference.ofToken, String.toList_ofList]
  obtain ⟨rest, hrest⟩ : ∃ rest, piece.drop i = Token.opening ++ (r.name.toList ++ rest) := by
    rw [heq]
    simp only [Reference.ofToken, String.toList_ofList]
    generalize piece.drop i = s at hform
    cases hform with
    | @mk name rest => exact ⟨rest, rfl⟩
  have hsplit : piece = piece.take i ++ (Token.opening ++ (r.name.toList ++ rest)) := by
    rw [← hrest, List.take_append_drop]
  have hstands : r.StandsIn piece := by
    rw [hsplit]
    exact Reference.standsIn_of_range hrange
  refine ⟨⟨piece, hpiece, hstands⟩, ?_⟩
  rcases getElem?_lines text.toList r.line with hline | ⟨piece', hpiece', hline⟩ | ⟨hnil, -⟩
  · exact ⟨piece, hline.trans hpiece, hstands⟩
  · obtain rfl : piece = piece' := Option.some.inj (hpiece.symm.trans hpiece')
    refine ⟨_, hline, ?_⟩
    rw [hsplit, List.append_assoc, List.append_assoc, List.append_assoc]
    exact Reference.standsIn_of_range hrange
  · -- Nothing is found on an empty line.
    obtain rfl : piece = [] := Option.some.inj (hpiece.symm.trans hnil)
    rw [List.drop_nil] at hform
    exact (not_tokenForm_nil hform).elim

theorem pairwise_apart (text : String) :
    (references text).ungrouped.Pairwise (fun r r' => r.range.Apart r'.range) := by
  have happart : (occurrences text).Pairwise (fun r r' => r.range.Apart r'.range) :=
    (pairwise_occurrences text).imp .inl
  exact (perm_ungrouped_ofList (occurrences text)).symm.pairwise happart Or.symm

/-! ### A text that is one reference -/

/-- A reference without a line feed in it is one line. -/
theorem pieces_text {t : Token} (h : '\n' ∉ t.text) : pieces t.text = [t.text] := by
  have hlast : t.text.getLast? = some '\x7d' := by
    have hend : t.text = (Token.opening ++ t.name ++ t.path ++ ['\x7d']) ++ ['\x7d'] := by
      simp [Token.text, Token.closing]
    rw [hend, List.getLast?_concat]
  rw [pieces, List.splitOn_eq_singleton h, List.map_singleton, dropCarriageReturn, hlast,
    if_neg (by decide)]

/-- The reference is then the only one. -/
theorem occurrences_of_tokenForm {t : Token} (hform : TokenForm t.text t) (hline : '\n' ∉ t.text) :
    occurrences (.ofList t.text) = [.ofToken 0 t.text 0 t] := by
  have hend : Tokenized t.text (0 + t.text.length) [] := by
    apply Tokenized.done
    intro i hle t'
    rw [List.drop_eq_nil_of_le (by omega)]
    exact not_tokenForm_nil
  have htokens : Tokenized t.text 0 [(0, t)] :=
    .token (Nat.le_refl 0) hform (fun j _ hlt => absurd hlt (Nat.not_lt_zero j)) hend
  apply Eq.symm
  apply (tokenizedLines_iff _ _).mp
  rw [String.toList_ofList, pieces_text hline]
  exact .cons htokens .nil

theorem notMem_of_isName {name : List Char} (h : isName name = true) : '\n' ∉ name := by
  intro hmem
  exact absurd ((isName_eq_true_iff.mp h).2 _ hmem) (by decide)

/-! ### A written reference -/

/-- A path is read to its end if the closing braces behind it are the first ones. -/
theorem isFirstClosing_of_path {path : List Char} (hclosing : ¬Token.closing <:+: path)
    (hlast : path.getLast? ≠ some '\x7d') : IsFirstClosing (path ++ Token.closing) path [] := by
  refine ⟨by rw [List.append_nil], ?_⟩
  intro before after hsplit
  by_contra hlt
  have hpath : path <+: path ++ Token.closing := List.prefix_append _ _
  by_cases hinside : before.length + 2 ≤ path.length
  · -- These braces would stand inside the path.
    have hbraces : before ++ Token.closing <+: path ++ Token.closing :=
      ⟨after, by rw [hsplit, List.append_assoc]⟩
    have hlength : (before ++ Token.closing).length ≤ path.length := by
      rw [List.length_append]
      exact hinside
    obtain ⟨rest, hrest⟩ := List.prefix_of_prefix_length_le hbraces hpath hlength
    exact hclosing ⟨before, rest, hrest⟩
  · -- The first of these braces would be the last character of the path.
    have hbrace : before ++ ['\x7d'] <+: path ++ Token.closing :=
      ⟨'\x7d' :: after, by rw [hsplit, List.append_assoc]; rfl⟩
    have hlength : (before ++ ['\x7d']).length = path.length := by
      rw [List.length_append, List.length_singleton]
      omega
    have hprefix := List.prefix_of_prefix_length_le hbrace hpath hlength.le
    rw [← hprefix.eq_of_length hlength, List.getLast?_concat] at hlast
    exact hlast rfl

/-- The token of a name and a path that are written between braces. -/
def writtenToken (name path : List Char) : Token :=
  ⟨name, '.' :: path, []⟩

variable {name path : List Char}

theorem text_writtenToken (name path : List Char) : (writtenToken name path).text =
    Token.opening ++ (name ++ '.' :: (path ++ Token.closing)) := by
  simp [writtenToken, Token.text]

theorem tokenForm_writtenToken (hname : isName name = true) (hclosing : ¬Token.closing <:+: path)
    (hlast : path.getLast? ≠ some '\x7d') :
    TokenForm (writtenToken name path).text (writtenToken name path) := by
  obtain ⟨hne, hchars⟩ := isName_eq_true_iff.mp hname
  rw [text_writtenToken]
  refine .mk hne hchars ?_ (.inr rfl) ?_
  · rintro c ⟨⟩
    decide
  · rw [isFirstClosing_cons_iff (by decide)]
    exact isFirstClosing_of_path hclosing hlast

theorem occurrences_writtenToken (hname : isName name = true) (hpath : '\n' ∉ path)
    (hclosing : ¬Token.closing <:+: path) (hlast : path.getLast? ≠ some '\x7d') :
    occurrences (.ofList (writtenToken name path).text) =
      [.ofToken 0 (writtenToken name path).text 0 (writtenToken name path)] := by
  apply occurrences_of_tokenForm (tokenForm_writtenToken hname hclosing hlast)
  have hname' := notMem_of_isName hname
  simp [text_writtenToken, Token.opening, Token.closing, hname', hpath]

/-- Every reference of a text is made of its name and its path, and its range cuts its name out of
its line; the ranges of two references are apart.  A name and a path between braces are read back if
the path keeps to one line and the closing braces behind it are the first ones. -/
theorem references_read_back :
    (∀ text, ∀ r ∈ (references text).ungrouped,
      ((r.text = .ofList Token.opening ++ r.name ++ .ofList Token.closing ∧ r.path = "") ∨
        r.text = .ofList Token.opening ++ r.name ++ "." ++ r.path ++ .ofList Token.closing) ∧
      (∃ piece, (pieces text.toList)[r.line]? = some piece ∧ r.StandsIn piece) ∧
      ∃ line, (Text.lines text.toList)[r.line]? = some line ∧ r.StandsIn line) ∧
    (∀ text, (references text).ungrouped.Pairwise (fun r r' => r.range.Apart r'.range)) ∧
    ∀ name path : String, isName name.toList = true → '\n' ∉ path.toList →
      ¬Token.closing <:+: path.toList → path.toList.getLast? ≠ some '\x7d' →
      ∃ r, (references (.ofList Token.opening ++ name ++ "." ++ path ++
          .ofList Token.closing)).groups = [(name, [r])] ∧ r.name = name ∧ r.path = path := by
  refine ⟨?_, pairwise_apart, ?_⟩
  · intro text r hr
    have hmem : r ∈ occurrences text := (perm_ungrouped_ofList _).mem_iff.mp hr
    obtain ⟨line, i, t, -, hform, heq⟩ := exists_ofToken hmem
    refine ⟨?_, exists_standsIn hmem⟩
    rw [heq]
    exact Reference.text_ofToken hform
  · intro name path hname hpath hclosing hlast
    let t := writtenToken name.toList path.toList
    let r := Reference.ofToken 0 t.text 0 t
    have hform : TokenForm t.text t := tokenForm_writtenToken hname hclosing hlast
    have hrname : r.name = name := String.ofList_toList
    have hrpath : r.path = path := (Reference.path_ofToken hform).trans String.ofList_toList
    have hwritten : .ofList Token.opening ++ name ++ "." ++ path ++ .ofList Token.closing =
        String.ofList t.text := by
      have hone : "." = String.ofList ['.'] := rfl
      rw [← String.ofList_toList (s := name), ← String.ofList_toList (s := path), hone]
      simp only [t, writtenToken, Token.text, ← String.ofList_append]
      simp
    have hgroups : (References.ofList [r]).groups = [(r.name, [r])] := rfl
    refine ⟨r, ?_, hrname, hrpath⟩
    rw [hwritten, references, occurrences_writtenToken hname hpath hclosing hlast, hgroups, hrname]

/-- Characters of more than one code unit in front, braces in a path and behind it, and a carriage
return that ends no line. -/
def crowdedLine : String :=
  "é😀\x7b\x7blogin.$.\x7b\x7ba\x7d\x7d\x7d \x7b\x7bb\x7d\x7d\r"

def crowdedReference : Reference :=
  ⟨"login", "\x7b\x7blogin.$.\x7b\x7ba\x7d\x7d", 0, .onLine 0 5 10⟩

/-- The path of the reference begins behind the dot, and one that is written with a dot in front keeps
it. -/
theorem references_read_back_crowded :
    crowdedReference ∈ (references crowdedLine).ungrouped ∧
    crowdedReference.text = .ofList Token.opening ++ "login" ++ "." ++ "$.\x7b\x7ba" ++
      .ofList Token.closing ∧
    (∃ line, (Text.lines crowdedLine.toList)[0]? = some line ∧ crowdedReference.StandsIn line) ∧
    ∃ r, (references (.ofList Token.opening ++ "login" ++ "." ++ ".a\x7b.$" ++
      .ofList Token.closing)).groups = [("login", [r])] ∧ r.name = "login" ∧
        r.path = ".a\x7b.$" := by
  have hmem : crowdedReference ∈ (references crowdedLine).ungrouped := by decide +kernel
  have hpath : crowdedReference.path = "$.\x7b\x7ba" := by decide
  obtain ⟨htext, -, hline⟩ := references_read_back.1 crowdedLine crowdedReference hmem
  have hwritten := references_read_back.2.2 "login" ".a\x7b.$" (by decide) (by decide) (by decide)
    (by decide)
  refine ⟨hmem, ?_, hline, hwritten⟩
  rcases htext with ⟨-, hnil⟩ | htext
  · rw [hpath] at hnil
    exact absurd hnil (by decide)
  · rw [htext, hpath]
    rfl

end Variable

end HttpScript
