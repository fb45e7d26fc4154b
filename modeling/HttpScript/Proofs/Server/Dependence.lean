/-
Module: HttpScript.Proofs.Server.Dependence
Purpose: What a check of a document would publish, and the texts on which that depends.  Sessions that
  differ in the text of one document at most load every other document alike; so what is due about a
  document that does not include the changed one was due before.
Main exports: Session.due, Session.Includes, Session.DependsOn, Session.AgreeApartFrom,
  Session.AgreeApartFrom.due_eq_some
-/
import HttpScript.Proofs.Script.Locality
import HttpScript.Proofs.Server.Checking
import HttpScript.Proofs.Url.Identity

namespace HttpScript.Server

open Script Variable

/-! ### Loading from the buffers -/

/-- Buffers that differ in one document load everything else alike. -/
theorem Buffers.load_congr {b b' : Buffers} {uri : Url} {path : FilePath} (huri : uri.IsCanonical)
    (hothers : ∀ u : Url, u.text ≠ uri.text → b'.texts.get? u = b.texts.get? u) (disk : Disk)
    (hpath : Url.ofFilePath? path ≠ some uri) : b'.load disk path = b.load disk path := by
  unfold Buffers.load
  cases hfile : Url.ofFilePath? path with
  | none => rfl
  | some u =>
      -- Buffers are found by the text of a URL, but only one file is written like the changed one.
      have htext : u.text ≠ uri.text := by
        intro htext
        obtain rfl := huri.eq_of_text_eq hfile htext.symm
        exact hpath hfile
      simp only [Option.bind_some, hothers u htext]

namespace Session

variable {disk : Disk} {s s' : Session} {d : TextDocument} {uri : Url} {ds : List Diagnostic}

/-! ### What is due -/

/-- What a check of a document would publish under the settings in force, if it publishes anything:
nothing while diagnostics are turned off, and else the complaints, if the document has a tree. -/
def due (disk : Disk) (s : Session) (d : TextDocument) : Option (List Diagnostic) :=
  if s.settings.diagnosticsEnabled then
    ((analyzerFor s.settings).diagnostics (s.buffers.load disk) s.captures resolve d).toOption
  else some []

/-- A document has a tree, and another document occurs in it. -/
def Includes (disk : Disk) (s : Session) (d : TextDocument) (uri : Url) : Prop :=
  ∃ tree, (analyzerFor s.settings).tree (s.buffers.load disk) d = .ok tree ∧
    tree.includesDocument uri = true

/-- What is due about a document can change with the text of another one. -/
def DependsOn (disk : Disk) (s : Session) (d : TextDocument) (uri : Url) : Prop :=
  s.settings.diagnosticsEnabled = true ∧ s.Includes disk d uri

@[simp] theorem due_withResults (results : DiagnosticCollection) (d : TextDocument) :
    (s.withResults results).due disk d = s.due disk d := rfl

@[simp] theorem dependsOn_withResults (results : DiagnosticCollection) (d : TextDocument)
    (uri : Url) : (s.withResults results).DependsOn disk d uri ↔ s.DependsOn disk d uri := .rfl

theorem due_of_disabled (h : s.settings.diagnosticsEnabled = false) (d : TextDocument) :
    s.due disk d = some [] := by
  simp [due, h]

theorem due_eq_some_iff (h : s.settings.diagnosticsEnabled = true) :
    s.due disk d = some ds ↔
      ∃ tree, (analyzerFor s.settings).tree (s.buffers.load disk) d = .ok tree ∧
        Diagnostic.diagnose d.uri (definitions tree s.settings.environmentVariables)
          (references d.text) s.captures resolve = ds := by
  rw [due, if_pos h, Analyzer.diagnostics]
  cases (analyzerFor s.settings).tree (s.buffers.load disk) d with
  | ok tree => simp [Except.map, Except.toOption, analyzerFor, Analyzer.new]
  | error e => simp [Except.map, Except.toOption]

theorem Configured.tree_eq (hs : s.Configured) (load : Loader) (d : TextDocument) :
    s.analyzer.tree load d = (analyzerFor s.settings).tree load d := by
  rw [Analyzer.tree, hs.maxIncludeDepth]
  rfl

theorem Configured.diagnostics_eq (hs : s.Configured) (load : Loader) (captures : Captures)
    (resolver : Resolver) (d : TextDocument) :
    s.analyzer.diagnostics load captures resolver d
      = (analyzerFor s.settings).diagnostics load captures resolver d := by
  rw [Analyzer.diagnostics, hs.tree_eq, hs.environment]
  rfl

/-- A check publishes what is due. -/
theorem Configured.checkOutput_eq (hs : s.Configured) (hdue : s.due disk d = some ds) :
    checkOutput disk s d = .publish d.uri ds := by
  unfold due at hdue
  unfold checkOutput
  split at hdue
  · next henabled =>
      rw [if_pos henabled, hs.diagnostics_eq]
      cases hdiagnostics : (analyzerFor s.settings).diagnostics (s.buffers.load disk) s.captures
          resolve d with
      | ok ds' =>
          rw [hdiagnostics] at hdue
          obtain rfl := Option.some.inj hdue
          rfl
      | error e =>
          rw [hdiagnostics] at hdue
          cases hdue
  · next hdisabled =>
      obtain rfl := Option.some.inj hdue
      rw [if_neg hdisabled]

theorem Configured.mem_dependents_iff (hs : s.Configured) :
    d ∈ dependents disk s uri ↔ d ∈ s.buffers.all ∧ d.uri ≠ uri ∧ s.Includes disk d uri := by
  rw [dependents, List.mem_filter, hs.tree_eq, Includes]
  cases (analyzerFor s.settings).tree (s.buffers.load disk) d with
  | ok tree => simp
  | error e => simp

/-! ### Changes of one text -/

/-- Two sessions differ in the text of one document at most. -/
structure AgreeApartFrom (uri : Url) (s s' : Session) : Prop where
  settings : s'.settings = s.settings
  captures : s'.captures = s.captures
  texts : ∀ u : Url, u.text ≠ uri.text → s'.buffers.texts.get? u = s.buffers.texts.get? u
  documents : ∀ d : TextDocument, d.uri.text ≠ uri.text → d ∈ s'.buffers.all → d ∈ s.buffers.all

theorem agreeApartFrom_insert (s : Session) (uri : Url) (text : String) :
    AgreeApartFrom uri s { s with buffers := s.buffers.insert uri text } where
  settings := rfl
  captures := rfl
  texts u htext := by simp [Buffers.insert, htext]
  documents d htext hd := by
    rcases Buffers.mem_all_insert.mp hd with rfl | ⟨hd, -⟩
    · exact absurd rfl htext
    · exact hd

theorem agreeApartFrom_erase (s : Session) (uri : Url) :
    AgreeApartFrom uri s { s with buffers := s.buffers.erase uri } where
  settings := rfl
  captures := rfl
  texts u htext := by simp [Buffers.erase, htext]
  documents _ _ hd := (Buffers.mem_all_erase.mp hd).1

/-- A document that does not include the changed one had the same tree before. -/
theorem AgreeApartFrom.tree_eq_ok {tree : DocumentTree} (hagree : AgreeApartFrom uri s s')
    (huri : uri.IsCanonical)
    (htree : (analyzerFor s'.settings).tree (s'.buffers.load disk) d = .ok tree)
    (hnot : tree.includesDocument uri = false) :
    (analyzerFor s.settings).tree (s.buffers.load disk) d = .ok tree := by
  rw [hagree.settings] at htree
  refine expand_congr_of_not_includes htree hnot ?_
  intro path hpath
  exact (Buffers.load_congr huri hagree.texts disk hpath).symm

/-- What is due about a document that does not depend on the changed one was due before, when it did
not depend on it either. -/
theorem AgreeApartFrom.due_eq_some (hagree : AgreeApartFrom uri s s') (huri : uri.IsCanonical)
    (hnot : ¬s'.DependsOn disk d uri) (hdue : s'.due disk d = some ds) :
    s.due disk d = some ds ∧ ¬s.DependsOn disk d uri := by
  cases henabled : s.settings.diagnosticsEnabled with
  | false =>
      have hdisabled : s'.settings.diagnosticsEnabled = false := hagree.settings ▸ henabled
      refine ⟨?_, fun hdepends => ?_⟩
      · rw [due_of_disabled hdisabled] at hdue
        rw [due_of_disabled henabled, hdue]
      · rw [hdepends.1] at henabled
        cases henabled
  | true =>
      have henabled' : s'.settings.diagnosticsEnabled = true := hagree.settings ▸ henabled
      obtain ⟨tree, htree, rfl⟩ := (due_eq_some_iff henabled').mp hdue
      have hfree : tree.includesDocument uri = false :=
        Bool.eq_false_iff.mpr (fun hinc => hnot ⟨henabled', tree, htree, hinc⟩)
      -- One tree, before and after, decides both what is due and what is included.
      have hbefore := hagree.tree_eq_ok huri htree hfree
      constructor
      · rw [due_eq_some_iff henabled, hagree.settings, hagree.captures]
        exact ⟨tree, hbefore, rfl⟩
      · rintro ⟨-, tree', htree', hinc⟩
        obtain rfl := Except.ok.inj (hbefore.symm.trans htree')
        rw [hfree] at hinc
        cases hinc

end Session

end HttpScript.Server
