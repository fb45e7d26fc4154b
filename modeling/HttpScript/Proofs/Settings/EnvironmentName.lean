/-
Module: HttpScript.Proofs.Settings.EnvironmentName
Purpose: The names that the check of an environment accepts are those that references spell.  A
  name between braces is read as one reference to it exactly if an environment may define it, and
  no text refers to a name that an environment may not define.
Main exports: Variable.isName_of_mem_occurrences, Variable.isName_iff_referenced,
  Settings.validate_iff_referenced
-/
import HttpScript.Proofs.Settings.InForce
import HttpScript.Proofs.Variable.ReferenceText

namespace HttpScript

namespace Variable

open Text

/-! ### Names of references -/

theorem TokenForm.isName {s : List Char} {t : Token} (h : TokenForm s t) :
    isName t.name = true := by
  cases h with
  | mk hne hchars => exact isName_eq_true_iff.mpr ⟨hne, hchars⟩

/-- Whatever a text holds, its references are to names. -/
theorem isName_of_mem_occurrences {text : String} {r : Reference} (h : r ∈ occurrences text) :
    isName r.name.toList = true := by
  obtain ⟨line, i, t, -, hform, heq⟩ := exists_ofToken h
  rw [heq]
  simpa [Reference.ofToken] using hform.isName

/-- The token of a name alone between braces. -/
def nameToken (name : List Char) : Token :=
  ⟨name, [], []⟩

variable {name : List Char}

theorem text_nameToken (name : List Char) :
    (nameToken name).text = Token.opening ++ (name ++ Token.closing) := by
  simp [nameToken, Token.text]

theorem tokenForm_nameToken (h : isName name = true) :
    TokenForm (nameToken name).text (nameToken name) := by
  obtain ⟨hne, hchars⟩ := isName_eq_true_iff.mp h
  rw [text_nameToken]
  exact .of_token? (token?_closing hne hchars)

theorem occurrences_nameToken (h : isName name = true) :
    occurrences (.ofList (nameToken name).text) =
      [.ofToken 0 (nameToken name).text 0 (nameToken name)] := by
  apply occurrences_of_tokenForm (tokenForm_nameToken h)
  have hline := notMem_of_isName h
  simp [text_nameToken, Token.opening, Token.closing, hline]

/-- The text of a reference to a name, if the name can be referred to. -/
def braced (name : String) : String :=
  .ofList Token.opening ++ name ++ .ofList Token.closing

theorem braced_eq (name : String) : braced name = .ofList (nameToken name.toList).text := by
  rw [text_nameToken, String.ofList_append, String.ofList_append, String.ofList_toList,
    ← String.append_assoc]
  rfl

/-- A name between braces is one reference, which refers to this name and is the whole text. -/
theorem isName_iff_braced (name : String) : isName name.toList = true ↔
    ∃ r, (references (braced name)).groups = [(r.name, [r])] ∧ r.name = name ∧
      r.text = braced name := by
  constructor
  · intro h
    let t := nameToken name.toList
    let r := Reference.ofToken 0 t.text 0 t
    refine ⟨r, ?_, String.ofList_toList, (braced_eq name).symm⟩
    rw [braced_eq, references, occurrences_nameToken h]
    rfl
  · rintro ⟨r, hgroups, rfl, -⟩
    have hmem : r ∈ occurrences (braced r.name) := by
      apply (perm_ungrouped_ofList _).mem_iff.mp
      rw [← references, References.ungrouped, hgroups]
      exact List.mem_singleton_self r
    exact isName_of_mem_occurrences hmem

/-- Some text refers to a name only if the name between braces does. -/
theorem isName_iff_referenced (name : String) : isName name.toList = true ↔
    ∃ text, ∃ r ∈ (references text).ungrouped, r.name = name := by
  constructor
  · intro h
    obtain ⟨r, hgroups, hname, -⟩ := (isName_iff_braced name).mp h
    refine ⟨braced name, r, ?_, hname⟩
    rw [References.ungrouped, hgroups]
    exact List.mem_singleton_self r
  · rintro ⟨text, r, hr, rfl⟩
    exact isName_of_mem_occurrences ((perm_ungrouped_ofList _).mem_iff.mp hr)

end Variable

namespace Settings

open Variable

/-- A name is accepted as the only one in the environment of settings with nothing else wrong
exactly if it is read, between braces, as the one reference to it that is the whole text.  A name
that is accepted can be referred to, and no text refers to one that is not. -/
theorem validate_iff_referenced (s : Settings) (name value : String)
    (hvalid : { s with environmentVariables := Dict.empty }.validate = .ok ()) :
    let named := { s with environmentVariables := Dict.empty.insert name value }
    (named.validate = .ok () ↔
      ∃ r, (references (braced name)).groups = [(r.name, [r])] ∧ r.name = name ∧
        r.text = braced name) ∧
    (named.validate = .ok () ↔ ∃ text, ∃ r ∈ (references text).ungrouped, r.name = name) := by
  intro named
  have hnamed : named.validate = .ok () ↔ isName name.toList = true := by
    have hdepth : 0 < s.maxIncludeDepth := (validate_eq_ok_iff.mp hvalid).1
    have hkeys : named.environmentVariables.keys = [name] := rfl
    rw [validate_eq_ok_iff, hkeys, List.forall_mem_singleton]
    exact and_iff_right hdepth
  exact ⟨hnamed.trans (isName_iff_braced name), hnamed.trans (isName_iff_referenced name)⟩

/-- An underscore is part of a name.  A dot is not: behind it a reference goes on with a path. -/
theorem validate_iff_referenced_dotted :
    { default with environmentVariables := Dict.empty }.validate = .ok () ∧
    { default with environmentVariables := Dict.empty.insert "base_url" "x" }.validate = .ok () ∧
    (∃ r, (references "\x7b\x7bbase_url\x7d\x7d").groups = [(r.name, [r])] ∧ r.name = "base_url" ∧
      r.text = "\x7b\x7bbase_url\x7d\x7d") ∧
    ∀ text, ∀ r ∈ (references text).ungrouped, r.name ≠ "base.url" := by
  have hvalid : { default with environmentVariables := Dict.empty }.validate = .ok () := rfl
  have haccepted :
      { default with environmentVariables := Dict.empty.insert "base_url" "x" }.validate = .ok () :=
    rfl
  refine ⟨hvalid, haccepted, ?_, ?_⟩
  · exact (validate_iff_referenced default "base_url" "x" hvalid).1.mp haccepted
  · intro text r hr hname
    have hnamed :=
      (validate_iff_referenced default "base.url" "x" hvalid).2.mpr ⟨text, r, hr, hname⟩
    cases hnamed

end Settings

end HttpScript
