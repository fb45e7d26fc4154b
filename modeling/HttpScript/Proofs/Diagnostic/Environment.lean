/-
Module: HttpScript.Proofs.Diagnostic.Environment
Purpose: What more names in the environment change in a check.  The complaints that one of them is
  missing go, and nothing else does: a name that a request or a file variable has as well is judged
  as before, because the environment counts last.
Main exports: contains_definitions, Diagnostic.fault?_definitions, Diagnostic.missesNameOf,
  Diagnostic.diagnose_definitions, Analyzer.check_with_more_names
-/
import HttpScript.Analyzer
import HttpScript.Proofs.Diagnostic.Classification
import HttpScript.Proofs.Script.IncludedDocument
import HttpScript.Proofs.Variable.Precedence
import Mathlib.Data.List.Nodup

namespace HttpScript

open Script Variable

/-! ### Defined names -/

namespace Variable

theorem Definitions.contains_defineAll (d : Definitions) (names : List String) (kind : Kind)
    (name : String) :
    (d.defineAll names kind).contains name = (decide (name ∈ names) || d.contains name) := by
  rw [contains, Dict.contains, get?_defineAll]
  by_cases hname : name ∈ names
  · simp [hname]
  · simp [hname, contains, Dict.contains]

/-- Whatever the environment, the names of the tree are defined, and besides them those of the
environment. -/
theorem contains_definitions (t : DocumentTree) (environment : Dict String) (name : String) :
    (definitions t environment).contains name
      = (environment.contains name || (definitions t {}).contains name) := by
  have hempty : name ∉ Dict.keys ({} : Dict String) := List.not_mem_nil
  simp only [definitions, Definitions.contains_defineAll, decide_eq_false hempty, Bool.false_or]
  simp only [Dict.mem_keys, Bool.decide_eq_true]

end Variable

namespace Diagnostic

/-! ### Verdicts -/

section Verdict

variable {t : DocumentTree} {environment environment' : Dict String} {document : Url}
  {captures : Captures} {resolve : Resolver}

/-- A reference is judged as before, unless its name was missing and is in the environment now. -/
theorem fault?_definitions (hnames : environment.keys ⊆ environment'.keys) (r : Reference) :
    fault? document (definitions t environment') captures resolve r
      = (fault? document (definitions t environment) captures resolve r).filter
          (fun found => !(found.1 = .undefined && environment'.contains r.name)) := by
  have hrequest : (definitions t environment').primary? r.name = some .request ↔
      (definitions t environment).primary? r.name = some .request := by
    rw [primary?_definitions_eq_request_iff, primary?_definitions_eq_request_iff]
  have hgrown : (definitions t environment').contains r.name
      = (environment'.contains r.name || (definitions t environment).contains r.name) := by
    have hmem : environment.contains r.name = true → environment'.contains r.name = true := by
      rw [← Dict.mem_keys, ← Dict.mem_keys]
      apply hnames
    rw [contains_definitions t environment', contains_definitions t environment]
    cases henvironment : environment.contains r.name with
    | false => rw [Bool.false_or]
    | true => rw [hmem henvironment, Bool.true_or, Bool.true_or]
  rcases fault?_cases document (definitions t environment) captures resolve r with
    ⟨hdefined, hkind, hfault⟩ | ⟨hdefined, hkind, hfault⟩ | ⟨-, hkind, hcapture, hfault⟩ |
    ⟨capture, -, hkind, hcapture, hfault⟩
  · rw [hdefined, Bool.or_false] at hgrown
    cases hcontains : environment'.contains r.name with
    | false =>
        rw [hcontains] at hgrown
        rw [fault?_of_undefined hgrown, hfault]
        rfl
    | true =>
        rw [hcontains] at hgrown
        rw [fault?_of_defined hgrown (mt hrequest.mp hkind), hfault]
        rfl
  · rw [hdefined, Bool.or_true] at hgrown
    rw [fault?_of_defined hgrown (mt hrequest.mp hkind), hfault]
    rfl
  · rw [fault?_of_unsent (hrequest.mpr hkind) hcapture, hfault]
    rfl
  · rw [fault?_of_sent (hrequest.mpr hkind) hcapture, hfault]
    cases ofResolution r (resolve capture r.path) with
    | none => rfl
    | some complaint => rfl

/-! ### Complaints -/

/-- Whether a complaint about a text is that a name is missing, and the name that stands where it
points is one of the environment. -/
def missesNameOf (environment : Dict String) (text : String) (complaint : Diagnostic) : Bool :=
  complaint.code = some undefinedVariable &&
    (occurrences text).any (fun r => r.range = complaint.range && environment.contains r.name)

/-- No two references have one range, so a complaint points at the name it is about. -/
theorem any_occurrences_eq {text : String} {r : Reference} (hr : r ∈ occurrences text)
    (environment : Dict String) :
    (occurrences text).any (fun r' => r'.range = r.range && environment.contains r'.name)
      = environment.contains r.name := by
  rw [Bool.eq_iff_iff, List.any_eq_true]
  constructor
  · rintro ⟨r', hr', hsame⟩
    rw [Bool.and_eq_true, decide_eq_true_eq] at hsame
    have heq : r' = r := List.inj_on_of_nodup_map (nodup_ranges_occurrences text) hr' hr hsame.1
    rw [← heq]
    exact hsame.2
  · intro hcontains
    exact ⟨r, hr, by simp [hcontains]⟩

/-- The code of a complaint tells its fault. -/
theorem code_eq_of_fault? {definitions : Definitions} {r : Reference} {found : Fault × Diagnostic}
    (h : found ∈ fault? document definitions captures resolve r) :
    found.2.code = some undefinedVariable ↔ found.1 = .undefined := by
  rw [Option.mem_def] at h
  rcases fault?_cases document definitions captures resolve r with ⟨-, -, hfault⟩ |
    ⟨-, -, hfault⟩ | ⟨-, -, -, hfault⟩ | ⟨capture, -, -, -, hfault⟩
  · obtain rfl := Option.some.inj (hfault.symm.trans h)
    exact iff_of_true rfl rfl
  · rw [hfault] at h
    cases h
  · obtain rfl := Option.some.inj (hfault.symm.trans h)
    simp [notSent, requestNotSent, undefinedVariable]
  · rw [hfault, Option.map_eq_some_iff] at h
    obtain ⟨complaint, hcomplaint, rfl⟩ := h
    obtain ⟨severity, -, rfl⟩ := Option.map_eq_some_iff.mp hcomplaint
    simp [requestVariableUnresolved, undefinedVariable]

theorem missesNameOf_of_fault? {definitions : Definitions} {text : String} {r : Reference}
    (hr : r ∈ occurrences text) {found : Fault × Diagnostic}
    (h : found ∈ fault? document definitions captures resolve r) (environment : Dict String) :
    found.2.missesNameOf environment text
      = (found.1 = .undefined && environment.contains r.name) := by
  rw [missesNameOf, range_of_fault? h, any_occurrences_eq hr]
  simp only [code_eq_of_fault? h]

theorem complaint?_definitions (hnames : environment.keys ⊆ environment'.keys) {text : String}
    {r : Reference} (hr : r ∈ occurrences text) (fault : Fault) :
    complaint? document (definitions t environment') captures resolve fault r
      = (complaint? document (definitions t environment) captures resolve fault r).filter
          (fun complaint => !complaint.missesNameOf environment' text) := by
  rw [complaint?, complaint?, fault?_definitions hnames]
  cases hfound : fault? document (definitions t environment) captures resolve r with
  | none => rfl
  | some found =>
      have hmisses := missesNameOf_of_fault? hr (Option.mem_def.mpr hfound) environment'
      rw [Option.filter_some, Option.bind_some, ← hmisses]
      by_cases hfault : found.1 = fault
      · rw [if_pos hfault, Option.filter_some]
        cases found.2.missesNameOf environment' text with
        | false => simp [hfault]
        | true => rfl
      · rw [if_neg hfault]
        cases found.2.missesNameOf environment' text with
        | false => simp [hfault]
        | true => rfl

/-- Under a larger environment the complaints about a text are what is left of them without those
that a name of it is missing. -/
theorem diagnose_definitions (hnames : environment.keys ⊆ environment'.keys) (text : String) :
    diagnose document (definitions t environment') (references text) captures resolve
      = (diagnose document (definitions t environment) (references text) captures resolve).filter
          (fun complaint => !complaint.missesNameOf environment' text) := by
  rw [references, diagnose_ofList, diagnose_ofList, List.filter_flatMap]
  apply List.flatMap_congr
  intro fault _
  rw [List.filter_filterMap]
  apply List.filterMap_congr
  intro r hr
  exact complaint?_definitions hnames ((perm_ungrouped_ofList _).mem_iff.mp hr) fault

end Verdict

end Diagnostic

/-! ### Checks -/

namespace Analyzer

/-- More names in the environment take away the complaints that one of them is missing, and leave
all other complaints as they are and in their order. -/
theorem check_with_more_names (a : Analyzer) (load : Loader) (captures : Captures)
    (resolve : Resolver) (document : TextDocument) (environment environment' : Dict String)
    (hnames : environment.keys ⊆ environment'.keys) (complaints : List Diagnostic)
    (h : ((a.setEnvironment environment).check load captures resolve document).1
      = .ok complaints) :
    ((a.setEnvironment environment').check load captures resolve document).1
      = .ok (complaints.filter
          (fun complaint => !complaint.missesNameOf environment' document.text)) := by
  have htree : ∀ e, (a.setEnvironment e).tree load document = a.tree load document :=
    fun _ => rfl
  rw [check_fst, diagnostics, htree] at h ⊢
  cases hexpand : a.tree load document with
  | error e =>
      rw [hexpand] at h
      cases h
  | ok tree =>
      rw [hexpand] at h
      obtain rfl := Except.ok.inj h
      exact congrArg Except.ok (Diagnostic.diagnose_definitions hnames document.text)

/-- References to a request of the document that was not sent, to a file variable, and to two names
that the document does not define. -/
def shadowed : TextDocument :=
  ⟨workUrl "a.http", "@port = 8\n# @name login\nGET {{host}}:{{port}}/{{login}}{{user}}\n"⟩

def portOnly : Dict String :=
  Dict.empty.insert "port" "80"

/-- Two more names: one that is missing and that of the request. -/
def portHostLogin : Dict String :=
  (portOnly.insert "host" "a.example").insert "login" "me"

/-- The complaints where the environment has only the port. -/
def shadowedComplaints : List Diagnostic := [
  { range := .onLine 2 6 10
    severity := .error
    message := "host is not found"
    code := some "undefined-variable"
    suggestion := some "Define it with '@host = value' or add it to the active environment" },
  { range := .onLine 2 33 37
    severity := .error
    message := "user is not found"
    code := some "undefined-variable"
    suggestion := some "Define it with '@user = value' or add it to the active environment" },
  { range := .onLine 2 24 29
    severity := .error
    message := "Request 'login' has not been sent"
    code := some "request-not-sent"
    suggestion := none }]

/-- The name that was missing is found, and the name of the request still stands for the request. -/
theorem check_with_more_names_shadowed :
    portOnly.keys ⊆ portHostLogin.keys ∧
    (((new 2 {}).setEnvironment portOnly).check MemoryFiles.empty.load {} resolve shadowed).1
      = .ok shadowedComplaints ∧
    (((new 2 {}).setEnvironment portHostLogin).check MemoryFiles.empty.load {} resolve shadowed).1
      = .ok shadowedComplaints.tail := by
  have hnames : portOnly.keys ⊆ portHostLogin.keys := by decide
  have hcheck : (((new 2 {}).setEnvironment portOnly).check MemoryFiles.empty.load {} resolve
      shadowed).1 = .ok shadowedComplaints := by
    decide +kernel
  have hgrown := check_with_more_names (new 2 {}) MemoryFiles.empty.load {} resolve shadowed
    portOnly portHostLogin hnames shadowedComplaints hcheck
  have hleft : shadowedComplaints.filter
      (fun complaint => !complaint.missesNameOf portHostLogin shadowed.text)
        = shadowedComplaints.tail := by
    decide +kernel
  exact ⟨hnames, hcheck, hgrown.trans (congrArg Except.ok hleft)⟩

end Analyzer

end HttpScript
