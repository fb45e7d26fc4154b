/-
Module: HttpScript.Proofs.Diagnostic.LastCheck
Purpose: What an analyzer has kept, after any work and whatever became of the files and the
  exchanges meanwhile: about each document the result of the last check that gave one, unless the
  document was forgotten after it.  A check that fails leaves no trace.
Main exports: Workspace, Action, Report, Workspace.performAll, LastResult,
  Workspace.collection_performAll, Workspace.collection_eq_last_results
-/
import HttpScript.Analyzer
import Mathlib.Data.List.Induction

namespace HttpScript

open Script Variable

/-- An analyzer, and the files and exchanges as they are at the moment. -/
structure Workspace where
  analyzer : Analyzer
  load : Loader
  captures : Captures

/-- What an analyzer is asked to do, and what happens around it. -/
inductive Action where
  | check (document : TextDocument)
  | checkAll (documents : List TextDocument)
  | setEnvironment (environment : Dict String)
  | forget (uri : Url)
  | filesChanged (load : Loader)
  | capturesChanged (captures : Captures)

/-- What an action has said about a document. -/
inductive Report where
  /-- A check returned this result. -/
  | checked (uri : Url) (result : List Diagnostic)
  | forgotten (uri : Url)

namespace Report

def uri : Report → Url
  | .checked uri _ => uri
  | .forgotten uri => uri

/-- The results of a check, if it did not fail. -/
def ofResult (uri : Url) : Except DocumentError (List Diagnostic) → List Report
  | .ok ds => [.checked uri ds]
  | .error _ => []

def ofResults (results : List (Url × List Diagnostic)) : List Report :=
  results.map (fun r => .checked r.1 r.2)

/-- The results that are kept after a report. -/
def applyTo (kept : DiagnosticCollection) : Report → DiagnosticCollection
  | .checked uri result => kept.insert uri result
  | .forgotten uri => kept.erase uri

end Report

/-- The last report about a document is that a check returned this result. -/
def LastResult (reports : List Report) (uri : Url) (result : List Diagnostic) : Prop :=
  ∃ before u after, reports = before ++ .checked u result :: after ∧ u.text = uri.text ∧
    ∀ r ∈ after, r.uri.text ≠ uri.text

/-! ### The last report counts -/

section Reports

variable {reports : List Report} {r : Report} {uri : Url} {result : List Diagnostic}

theorem lastResult_append_singleton_iff :
    LastResult (reports ++ [r]) uri result ↔
      (∃ u, r = .checked u result ∧ u.text = uri.text) ∨
        r.uri.text ≠ uri.text ∧ LastResult reports uri result := by
  constructor
  · rintro ⟨before, u, after, heq, htext, hafter⟩
    rcases List.eq_nil_or_concat after with rfl | ⟨after', last, rfl⟩
    · obtain ⟨-, hlast⟩ := List.append_inj' heq rfl
      exact .inl ⟨u, (List.cons.inj hlast).1, htext⟩
    · rw [List.concat_eq_append, ← List.cons_append, ← List.append_assoc] at heq
      obtain ⟨hfront, hlast⟩ := List.append_inj' heq rfl
      obtain rfl := (List.cons.inj hlast).1
      refine .inr ⟨hafter _ (by simp), before, u, after', hfront, htext, ?_⟩
      intro r' hr'
      exact hafter r' (by simp [hr'])
  · rintro (⟨u, rfl, htext⟩ | ⟨hne, before, u, after, rfl, htext, hafter⟩)
    · exact ⟨reports, u, [], rfl, htext, by simp⟩
    · refine ⟨before, u, after ++ [r], by simp, htext, ?_⟩
      intro r' hr'
      rcases List.mem_append.mp hr' with hr' | hr'
      · exact hafter r' hr'
      · obtain rfl := List.mem_singleton.mp hr'
        exact hne

theorem not_lastResult_nil : ¬LastResult [] uri result := by
  rintro ⟨before, u, after, heq, -⟩
  simp at heq

/-- Of the reports about a document only the last one shows in what is kept. -/
theorem get?_foldl_applyTo :
    (reports.foldl Report.applyTo {}).get? uri = some result ↔ LastResult reports uri result := by
  induction reports using List.reverseRecOn with
  | nil =>
      constructor
      · intro h
        cases h
      · intro h
        exact (not_lastResult_nil h).elim
  | append_singleton reports r ih =>
      rw [List.foldl_append, lastResult_append_singleton_iff, ← ih]
      cases r with
      | checked u ds =>
          simp only [List.foldl_cons, List.foldl_nil, Report.applyTo, UriMap.get?_insert,
            Report.uri]
          by_cases htext : uri.text = u.text
          · simp [htext]
          · simp [htext, Ne.symm htext]
      | forgotten u =>
          simp only [List.foldl_cons, List.foldl_nil, Report.applyTo, UriMap.get?_erase, Report.uri]
          by_cases htext : uri.text = u.text
          · simp [htext]
          · simp [htext, Ne.symm htext]

end Reports

/-! ### Checks and what they keep -/

namespace Analyzer

variable {a : Analyzer} {load : Loader} {captures : Captures} {resolve : Resolver}

/-- A check keeps what it returns. -/
theorem collection_check (document : TextDocument) :
    (a.check load captures resolve document).2.collection =
      (Report.ofResult document.uri (a.check load captures resolve document).1).foldl
        Report.applyTo a.collection := by
  rw [check_fst]
  cases h : a.diagnostics load captures resolve document with
  | ok ds =>
      rw [check_snd_of_ok h]
      rfl
  | error e =>
      rw [check_snd_of_error h]
      rfl

/-- The results of some checks are those of the documents that have one, each as if it were checked
alone. -/
theorem checkAll_fst (documents : List TextDocument) :
    (a.checkAll load captures resolve documents).1 = documents.filterMap (fun d =>
      (a.diagnostics load captures resolve d).toOption.map (d.uri, ·)) := by
  induction documents generalizing a with
  | nil => rfl
  | cons d rest ih =>
      cases h : a.diagnostics load captures resolve d with
      | ok ds =>
          rw [checkAll_cons_of_ok h, List.filterMap_cons_some (b := (d.uri, ds)) (by rw [h]; rfl),
            ih]
          rfl
      | error e =>
          rw [checkAll_cons_of_error h, List.filterMap_cons_none (by rw [h]; rfl), ih]

/-- Some checks keep what they return, in this order. -/
theorem collection_checkAll (documents : List TextDocument) :
    (a.checkAll load captures resolve documents).2.collection =
      (a.checkAll load captures resolve documents).1.foldl (fun kept r => kept.insert r.1 r.2)
        a.collection := by
  induction documents generalizing a with
  | nil => rfl
  | cons d rest ih =>
      cases h : a.diagnostics load captures resolve d with
      | ok ds =>
          rw [checkAll_cons_of_ok h]
          exact ih
      | error e =>
          rw [checkAll_cons_of_error h]
          exact ih

end Analyzer

/-! ### Work -/

namespace Workspace

/-- A workspace after an action, and what the action has said. -/
def perform (resolve : Resolver) (w : Workspace) : Action → Workspace × List Report
  | .check document =>
    let (result, analyzer) := w.analyzer.check w.load w.captures resolve document
    ({ w with analyzer := analyzer }, Report.ofResult document.uri result)
  | .checkAll documents =>
    let (results, analyzer) := w.analyzer.checkAll w.load w.captures resolve documents
    ({ w with analyzer := analyzer }, Report.ofResults results)
  | .setEnvironment environment =>
    ({ w with analyzer := w.analyzer.setEnvironment environment }, [])
  | .forget uri => ({ w with analyzer := w.analyzer.forget uri }, [.forgotten uri])
  | .filesChanged load => ({ w with load := load }, [])
  | .capturesChanged captures => ({ w with captures := captures }, [])

/-- A workspace after some actions, and what they have said one after the other. -/
def performAll (resolve : Resolver) (w : Workspace) : List Action → Workspace × List Report
  | [] => (w, [])
  | action :: rest =>
    let (w, reports) := w.perform resolve action
    let (w, more) := performAll resolve w rest
    (w, reports ++ more)

/-- What is kept after an action is what was kept before it, with the reports of the action. -/
theorem collection_perform (resolve : Resolver) (w : Workspace) (action : Action) :
    (w.perform resolve action).1.analyzer.collection =
      (w.perform resolve action).2.foldl Report.applyTo w.analyzer.collection := by
  cases action with
  | check document => exact Analyzer.collection_check document
  | checkAll documents =>
      simp only [perform, Report.ofResults, List.foldl_map]
      exact Analyzer.collection_checkAll documents
  | setEnvironment environment => rfl
  | forget uri => rfl
  | filesChanged load => rfl
  | capturesChanged captures => rfl

theorem collection_performAll (resolve : Resolver) (w : Workspace) (actions : List Action) :
    (w.performAll resolve actions).1.analyzer.collection =
      (w.performAll resolve actions).2.foldl Report.applyTo w.analyzer.collection := by
  induction actions generalizing w with
  | nil => rfl
  | cons action rest ih =>
      have hfirst := collection_perform resolve w action
      have hrest := ih (w.perform resolve action).1
      simp only [performAll, List.foldl_append]
      rw [hrest, hfirst]

/-- A new analyzer. -/
def new (maxIncludeDepth : Nat) (environment : Dict String) (load : Loader) (captures : Captures) :
    Workspace :=
  ⟨.new maxIncludeDepth environment, load, captures⟩

/-- Whatever an analyzer was asked to do, and whatever became of the files and the exchanges
meanwhile: it keeps about a document the last result that a check of it returned, unless the
document was forgotten after that, and nothing else.  A check that fails changes nothing that is
kept.  Checks of several documents return the results of those that do not fail, in order, and keep
them in this order, so that of a document given twice the later result stays. -/
theorem collection_eq_last_results (resolve : Resolver) (maxIncludeDepth : Nat)
    (environment : Dict String) (load : Loader) (captures : Captures) (actions : List Action) :
    let work := (new maxIncludeDepth environment load captures).performAll resolve actions
    let a := work.1.analyzer
    (∀ uri, a.collection.contains uri = true ↔ ∃ result, LastResult work.2 uri result) ∧
    (∀ uri result, a.collection.get? uri = some result ↔ LastResult work.2 uri result) ∧
    (∀ document e, (a.check work.1.load work.1.captures resolve document).1 = .error e →
      (a.check work.1.load work.1.captures resolve document).2.collection = a.collection) ∧
    (∀ documents,
      (a.checkAll work.1.load work.1.captures resolve documents).1 =
        documents.filterMap (fun d =>
          (a.check work.1.load work.1.captures resolve d).1.toOption.map (d.uri, ·)) ∧
      (a.checkAll work.1.load work.1.captures resolve documents).2.collection =
        (a.checkAll work.1.load work.1.captures resolve documents).1.foldl
          (fun kept r => kept.insert r.1 r.2) a.collection) := by
  intro work a
  have hkept : ∀ uri result,
      a.collection.get? uri = some result ↔ LastResult work.2 uri result := by
    intro uri result
    have hrun := collection_performAll resolve (new maxIncludeDepth environment load captures)
      actions
    rw [hrun]
    exact get?_foldl_applyTo
  refine ⟨?_, hkept, ?_, ?_⟩
  · intro uri
    rw [UriMap.contains_eq_isSome, Option.isSome_iff_exists]
    exact exists_congr (hkept uri)
  · intro document e hfailed
    rw [Analyzer.collection_check, hfailed]
    rfl
  · intro documents
    constructor
    · rw [Analyzer.checkAll_fst]
      simp only [Analyzer.check_fst]
    · exact Analyzer.collection_checkAll documents

end Workspace

end HttpScript
