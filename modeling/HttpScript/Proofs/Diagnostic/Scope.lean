/-
Module: HttpScript.Proofs.Diagnostic.Scope
Purpose: Which exchanges a check of a document can depend on.  It reads those of requests that the
  document itself declares and refers to, and no others; of the environment it reads the names.
Main exports: TextDocument.Reads, Diagnostic.diagnose_congr, Analyzer.check_scoped
-/
import HttpScript.Analyzer
import HttpScript.Proofs.Diagnostic.Classification
import HttpScript.Proofs.Script.IncludedDocument
import HttpScript.Proofs.Variable.Precedence

namespace HttpScript

open Script Variable

/-! ### Verdicts -/

namespace Diagnostic

variable {document : Url} {definitions : Definitions} {captures captures' : Captures}
  {resolve : Resolver}

/-- The verdict on a reference depends on an exchange only if the reference stands for a request. -/
theorem fault?_congr {r : Reference}
    (h : definitions.primary? r.name = some .request →
      captures.get? ⟨r.name, document⟩ = captures'.get? ⟨r.name, document⟩) :
    fault? document definitions captures resolve r
      = fault? document definitions captures' resolve r := by
  by_cases hkind : definitions.primary? r.name = some .request
  · rw [fault?, fault?, h hkind]
  · cases hdefined : definitions.contains r.name with
    | false => rw [fault?_of_undefined hdefined, fault?_of_undefined hdefined]
    | true => rw [fault?_of_defined hdefined hkind, fault?_of_defined hdefined hkind]

theorem diagnose_congr {rs : List Reference}
    (h : ∀ r ∈ rs, definitions.primary? r.name = some .request →
      captures.get? ⟨r.name, document⟩ = captures'.get? ⟨r.name, document⟩) :
    diagnose document definitions (.ofList rs) captures resolve
      = diagnose document definitions (.ofList rs) captures' resolve := by
  rw [diagnose_ofList, diagnose_ofList]
  apply List.flatMap_congr
  intro fault _
  apply List.filterMap_congr
  intro r hr
  rw [complaint?, complaint?, fault?_congr (h r ((perm_ungrouped_ofList rs).mem_iff.mp hr))]

end Diagnostic

/-! ### Checks -/

/-- The exchanges that the references of a document can mean: those of a request that the document
itself declares, under a name that it refers to. -/
def TextDocument.Reads (document : TextDocument) (key : CaptureKey) : Prop :=
  key.document = document.uri ∧ key.name ∈ declaredNames document.text ∧
    ∃ r ∈ occurrences document.text, r.name = key.name

namespace Analyzer

section Congruence

variable {a : Analyzer} {load : Loader} {resolve : Resolver} {document : TextDocument}

theorem diagnostics_congr {environment environment' : Dict String} {captures captures' : Captures}
    (hnames : ∀ name, environment.contains name = environment'.contains name)
    (hcaptures : ∀ key, document.Reads key → captures.get? key = captures'.get? key) :
    (a.setEnvironment environment).diagnostics load captures resolve document
      = (a.setEnvironment environment').diagnostics load captures' resolve document := by
  have htree : ∀ e, (a.setEnvironment e).tree load document = a.tree load document :=
    fun _ => rfl
  unfold diagnostics
  rw [htree, htree]
  cases hexpand : a.tree load document with
  | error e => simp only [Except.map]
  | ok tree =>
      have hrequests := (expand_eq_ok_iff.mp hexpand).1.filterMap_requests
      have hdiagnose : Diagnostic.diagnose document.uri (definitions tree environment')
            (references document.text) captures resolve
          = Diagnostic.diagnose document.uri (definitions tree environment')
            (references document.text) captures' resolve := by
        apply Diagnostic.diagnose_congr
        intro r hr hkind
        apply hcaptures
        have hdeclared := primary?_definitions_eq_request_iff.mp hkind
        rw [hrequests] at hdeclared
        exact ⟨rfl, hdeclared, r, hr, rfl⟩
      simp only [setEnvironment, Except.map, definitions_congr hnames, hdiagnose]

/-- Exchanges that the document does not read can come and go. -/
theorem check_congr_of_not_reads {captures captures' : Captures} {key : CaptureKey}
    (hkey : ¬document.Reads key)
    (hothers : ∀ other, other ≠ key → captures.get? other = captures'.get? other) :
    a.check load captures resolve document = a.check load captures' resolve document := by
  have hsame : (a.setEnvironment a.environment).diagnostics load captures resolve document
      = (a.setEnvironment a.environment).diagnostics load captures' resolve document := by
    apply diagnostics_congr (fun _ => rfl)
    intro other hother
    apply hothers
    rintro rfl
    exact hkey hother
  have hdiagnostics : a.diagnostics load captures resolve document
      = a.diagnostics load captures' resolve document := hsame
  rw [check, check, hdiagnostics]

end Congruence

/-- A check depends on the names of the environment and on the exchanges that the document reads.
Exchanges of other documents, of names that the document itself does not declare and of names that
it does not refer to can come and go. -/
theorem check_scoped (a : Analyzer) (load : Loader) (resolve : Resolver) (document : TextDocument)
    (environment environment' : Dict String) (captures captures' : Captures)
    (hnames : ∀ name, environment.contains name = environment'.contains name)
    (hcaptures : ∀ key, document.Reads key → captures.get? key = captures'.get? key) :
    let check := fun environment captures =>
      (a.setEnvironment environment).check load captures resolve document
    (check environment captures).1 = (check environment' captures').1 ∧
    (check environment captures).2.collection = (check environment' captures').2.collection ∧
    ∀ key capture,
      (key.document ≠ document.uri ∨ key.name ∉ declaredNames document.text ∨
        ∀ r ∈ occurrences document.text, r.name ≠ key.name) →
      check environment (captures.insert key capture) = check environment captures ∧
      check environment (captures.erase key) = check environment captures := by
  intro check
  have hsame : (a.setEnvironment environment).diagnostics load captures resolve document
      = (a.setEnvironment environment').diagnostics load captures' resolve document :=
    diagnostics_congr hnames hcaptures
  refine ⟨?_, ?_, ?_⟩
  · simp only [check, check_fst]
    exact hsame
  · cases hresult : (a.setEnvironment environment').diagnostics load captures' resolve document with
    | ok ds =>
        simp only [check]
        rw [check_snd_of_ok (hsame.trans hresult), check_snd_of_ok hresult]
        rfl
    | error e =>
        simp only [check]
        rw [check_snd_of_error (hsame.trans hresult), check_snd_of_error hresult]
        rfl
  · intro key capture hkey
    have hnot : ¬document.Reads key := by
      rintro ⟨hdocument, hdeclared, r, hr, hname⟩
      rcases hkey with hkey | hkey | hkey
      · exact hkey hdocument
      · exact hkey hdeclared
      · exact hkey r hr hname
    constructor
    · exact check_congr_of_not_reads hnot (fun _ hne => Captures.get?_insert_of_ne hne)
    · exact check_congr_of_not_reads hnot (fun _ hne => Captures.get?_erase_of_ne hne)

/-- The document refers to a request of its own, to one that an included document declares and to
a name of the environment.  Another request of its own is not referred to. -/
def chained : TextDocument :=
  ⟨workUrl "a.http",
    "@@include b.http\n# @name me\nGET /\n###\n# @name spare\nGET /{{me}}{{token}}{{host}}\n"⟩

def chainedFiles : MemoryFiles :=
  .ofList [(.ofString "/work/b.http", "# @name token\nGET /\n")]

def chainedHost (host : String) : Dict String :=
  Dict.empty.insert "host" host

def exchange : Capture :=
  ⟨.new "1" .get "/", .new 200 "OK"⟩

/-- The one exchange that the document reads. -/
def sent : Captures :=
  Captures.empty.insert ⟨"me", workUrl "a.http"⟩ exchange

/-- More exchanges: of a name that only the included document declares, of a name that is not
referred to, and of another document. -/
def sentElsewhere : Captures :=
  ((sent.insert ⟨"token", workUrl "a.http"⟩ exchange).insert
    ⟨"spare", workUrl "a.http"⟩ exchange).insert ⟨"me", workUrl "b.http"⟩ exchange

def chainedComplaints : List Diagnostic := [
  { range := .onLine 5 13 18
    severity := .error
    message := "token is not found"
    code := some "undefined-variable"
    suggestion := some "Define it with '@token = value' or add it to the active environment" },
  { range := .onLine 5 7 9
    severity := .warning
    message := "Http entity name 'request' or 'response' is missing"
    code := some "request-variable-unresolved"
    suggestion := none }]

theorem eq_of_chained_reads {key : CaptureKey} (h : chained.Reads key) :
    key = ⟨"me", workUrl "a.http"⟩ := by
  obtain ⟨hdocument, hmem, r, hr, hname⟩ := h
  have hdeclared : declaredNames chained.text = ["me", "spare"] := by decide +kernel
  have hreferred : (occurrences chained.text).map (·.name) = ["me", "token", "host"] := by
    decide +kernel
  have hmem' : key.name ∈ (occurrences chained.text).map (·.name) :=
    hname ▸ List.mem_map_of_mem hr
  rw [hdeclared] at hmem
  rw [hreferred] at hmem'
  have hme : key.name = "me" := by
    rcases List.mem_pair.mp hmem with hkey | hkey
    · exact hkey
    · rw [hkey] at hmem'
      exact absurd hmem' (by decide)
  exact congrArg₂ CaptureKey.mk hme hdocument

/-- The same complaints with more exchanges and another host. -/
theorem check_scoped_chained :
    (∀ name, (chainedHost "a").contains name = (chainedHost "b").contains name) ∧
    (∀ key, chained.Reads key → sent.get? key = sentElsewhere.get? key) ∧
    (((new 2 {}).setEnvironment (chainedHost "a")).check chainedFiles.load sent resolve chained).1
      = .ok chainedComplaints ∧
    (((new 2 {}).setEnvironment (chainedHost "b")).check chainedFiles.load sentElsewhere resolve
      chained).1 = .ok chainedComplaints := by
  have hnames : ∀ name, (chainedHost "a").contains name = (chainedHost "b").contains name := by
    intro name
    by_cases hname : name = "host"
    · simp [chainedHost, Dict.contains, hname]
    · simp [chainedHost, Dict.contains, hname]
  have hcaptures : ∀ key, chained.Reads key → sent.get? key = sentElsewhere.get? key := by
    intro key hreads
    rw [eq_of_chained_reads hreads]
    rfl
  have hsent : (((new 2 {}).setEnvironment (chainedHost "a")).check chainedFiles.load sent resolve
      chained).1 = .ok chainedComplaints := by
    decide +kernel
  have hscoped := check_scoped (new 2 {}) chainedFiles.load resolve chained (chainedHost "a")
    (chainedHost "b") sent sentElsewhere hnames hcaptures
  exact ⟨hnames, hcaptures, hsent, hscoped.1.symm.trans hsent⟩

end Analyzer

end HttpScript
