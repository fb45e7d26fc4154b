/-
Module: HttpScript.Analyzer
Purpose: Checking whole documents, with the last result of each document kept.
Main exports: Analyzer, Analyzer.tree, Analyzer.check, Analyzer.checkAll, Analyzer.setEnvironment,
  Analyzer.forget, Analyzer.check_fst, Analyzer.checkAll_cons_of_ok
-/
import HttpScript.Diagnostic.Check
import HttpScript.Script.Expand
import HttpScript.UriMap

namespace HttpScript

open Script Variable

/-- The last complaints about each document. -/
abbrev DiagnosticCollection := UriMap (List Diagnostic)

/-- What does not change from one check to the next, and the results so far. -/
structure Analyzer where
  maxIncludeDepth : Nat
  environment : Dict String
  collection : DiagnosticCollection
deriving Repr

namespace Analyzer

/-- An analyzer without results. -/
def new (maxIncludeDepth : Nat) (environment : Dict String) : Analyzer :=
  ⟨maxIncludeDepth, environment, {}⟩

/-- Puts another environment in force.  Results so far are kept. -/
def setEnvironment (a : Analyzer) (environment : Dict String) : Analyzer :=
  { a with environment := environment }

/-- The tree of a document. -/
def tree (a : Analyzer) (load : Loader) (document : TextDocument) :
    Except DocumentError DocumentTree :=
  expand load a.maxIncludeDepth document

/-- The complaints about a document. -/
def diagnostics (a : Analyzer) (load : Loader) (captures : Captures) (resolve : Resolver)
    (document : TextDocument) : Except DocumentError (List Diagnostic) :=
  (a.tree load document).map (fun tree =>
    Diagnostic.diagnose document.uri (definitions tree a.environment) (references document.text)
      captures resolve)

/-- Checks a document and keeps the result.  A document without a tree keeps its earlier result. -/
def check (a : Analyzer) (load : Loader) (captures : Captures) (resolve : Resolver)
    (document : TextDocument) : Except DocumentError (List Diagnostic) × Analyzer :=
  match a.diagnostics load captures resolve document with
  | .ok ds => (.ok ds, { a with collection := a.collection.insert document.uri ds })
  | .error e => (.error e, a)

/-- Checks some documents one after the other; those without a tree are left out of the results. -/
def checkAll (a : Analyzer) (load : Loader) (captures : Captures) (resolve : Resolver) :
    List TextDocument → List (Url × List Diagnostic) × Analyzer
  | [] => ([], a)
  | document :: rest =>
    let (result, a) := a.check load captures resolve document
    let (results, a) := checkAll a load captures resolve rest
    match result with
    | .ok ds => ((document.uri, ds) :: results, a)
    | .error _ => (results, a)

/-- Drops the result of a document. -/
def forget (a : Analyzer) (uri : Url) : Analyzer :=
  { a with collection := a.collection.erase uri }

/-! ### What a check returns and keeps -/

section Check

variable {a : Analyzer} {load : Loader} {captures : Captures} {resolve : Resolver}
  {document : TextDocument}

@[simp] theorem check_fst :
    (a.check load captures resolve document).1 = a.diagnostics load captures resolve document := by
  unfold check
  cases a.diagnostics load captures resolve document with
  | ok ds => rfl
  | error e => rfl

theorem check_snd_of_ok {ds : List Diagnostic}
    (h : a.diagnostics load captures resolve document = .ok ds) :
    (a.check load captures resolve document).2
      = { a with collection := a.collection.insert document.uri ds } := by
  rw [check, h]

theorem check_snd_of_error {e : DocumentError}
    (h : a.diagnostics load captures resolve document = .error e) :
    (a.check load captures resolve document).2 = a := by
  rw [check, h]

variable {rest : List TextDocument}

theorem checkAll_cons_of_ok {ds : List Diagnostic}
    (h : a.diagnostics load captures resolve document = .ok ds) :
    let kept := { a with collection := a.collection.insert document.uri ds }
    a.checkAll load captures resolve (document :: rest)
      = ((document.uri, ds) :: (kept.checkAll load captures resolve rest).1,
        (kept.checkAll load captures resolve rest).2) := by
  rw [checkAll, check, h]

theorem checkAll_cons_of_error {e : DocumentError}
    (h : a.diagnostics load captures resolve document = .error e) :
    a.checkAll load captures resolve (document :: rest)
      = a.checkAll load captures resolve rest := by
  rw [checkAll, check, h]

end Check

end Analyzer

end HttpScript
