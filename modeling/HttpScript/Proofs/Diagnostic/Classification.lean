/-
Module: HttpScript.Proofs.Diagnostic.Classification
Purpose: Three passes over groups of references amount to one verdict on each reference.  No
  reference is reported twice, whatever the mix of defined, shadowed, sent and unsent names.
Main exports: Fault, fault?, diagnose_ofList, diagnose_eq_verdicts
-/
import HttpScript.Diagnostic.Check
import HttpScript.Proofs.Variable.Grouping
import HttpScript.Proofs.Variable.Occurrence

namespace HttpScript

open Variable

namespace Variable.Definitions

/-- A name that stands for something is defined. -/
theorem contains_of_primary?_eq_some {d : Definitions} {name : String} {kind : Kind}
    (h : d.primary? name = some kind) : d.contains name = true := by
  rw [primary?, kindsOf] at h
  rw [contains, Dict.contains]
  cases hkinds : d.kinds.get? name with
  | none =>
      rw [hkinds] at h
      cases h
  | some kinds => rfl

end Variable.Definitions

namespace Diagnostic

/-! ### The verdict on one reference -/

/-- What can be wrong with a reference. -/
inductive Fault where
  /-- Its name is defined nowhere. -/
  | undefined
  /-- It stands for a request without an exchange. -/
  | unsent
  /-- Its path does not lead to a value in the exchange. -/
  | unresolved
deriving Repr, DecidableEq

/-- The faults in the order in which they are reported. -/
def Fault.all : List Fault := [.undefined, .unsent, .unresolved]

theorem Fault.nodup_all : Fault.all.Nodup := by decide

theorem Fault.mem_all (fault : Fault) : fault ∈ Fault.all := by
  cases fault with
  | undefined => decide
  | unsent => decide
  | unresolved => decide

def notFound (r : Reference) : Diagnostic where
  range := r.range
  severity := .error
  message := s!"{r.name} is not found"
  code := some undefinedVariable
  suggestion := some s!"Define it with '@{r.name} = value' or add it to the active environment"

def notSent (r : Reference) : Diagnostic where
  range := r.range
  severity := .error
  message := s!"Request '{r.name}' has not been sent"
  code := some requestNotSent
  suggestion := none

def notResolved (r : Reference) (severity : Severity) (message : String) : Diagnostic where
  range := r.range
  severity := severity
  message := message
  code := some requestVariableUnresolved
  suggestion := none

section Verdict

variable (document : Url) (definitions : Definitions) (captures : Captures) (resolve : Resolver)

/-- The fault of one reference with the complaint about it, if there is one. -/
def fault? (r : Reference) : Option (Fault × Diagnostic) :=
  if definitions.contains r.name then
    match definitions.primary? r.name, captures.get? ⟨r.name, document⟩ with
    | some .request, none => some (.unsent, notSent r)
    | some .request, some capture =>
      let answer := resolve capture r.path
      match answer.state with
      | .success => none
      | .warning => some (.unresolved, notResolved r .warning (answer.message.getD ""))
      | .error => some (.unresolved, notResolved r .error (answer.message.getD ""))
    | _, _ => none
  else some (.undefined, notFound r)

/-- What is said about a reference under one heading. -/
def complaint? (fault : Fault) (r : Reference) : Option Diagnostic :=
  (fault? document definitions captures resolve r).bind (fun found =>
    if found.1 = fault then some found.2 else none)

variable {document definitions captures resolve} {r : Reference}

theorem fault?_of_undefined (h : definitions.contains r.name = false) :
    fault? document definitions captures resolve r = some (.undefined, notFound r) := by
  simp [fault?, h]

theorem fault?_of_defined (h : definitions.contains r.name = true)
    (hkind : definitions.primary? r.name ≠ some .request) :
    fault? document definitions captures resolve r = none := by
  rw [fault?, if_pos h]
  split
  · contradiction
  · contradiction
  · rfl

theorem fault?_of_unsent (h : definitions.primary? r.name = some .request)
    (hcapture : captures.get? ⟨r.name, document⟩ = none) :
    fault? document definitions captures resolve r = some (.unsent, notSent r) := by
  rw [fault?, if_pos (Definitions.contains_of_primary?_eq_some h), h, hcapture]

theorem fault?_of_sent {capture : Capture} (h : definitions.primary? r.name = some .request)
    (hcapture : captures.get? ⟨r.name, document⟩ = some capture) :
    fault? document definitions captures resolve r
      = (ofResolution r (resolve capture r.path)).map (.unresolved, ·) := by
  rw [fault?, if_pos (Definitions.contains_of_primary?_eq_some h), h, hcapture]
  cases hstate : (resolve capture r.path).state with
  | success => simp [ofResolution, hstate]
  | warning => simp [ofResolution, hstate, notResolved]
  | error => simp [ofResolution, hstate, notResolved]

/-- The four ways a reference can stand. -/
theorem fault?_cases (document : Url) (definitions : Definitions) (captures : Captures)
    (resolve : Resolver) (r : Reference) :
    (definitions.contains r.name = false ∧ definitions.primary? r.name ≠ some .request ∧
      fault? document definitions captures resolve r = some (.undefined, notFound r)) ∨
    (definitions.contains r.name = true ∧ definitions.primary? r.name ≠ some .request ∧
      fault? document definitions captures resolve r = none) ∨
    (definitions.contains r.name = true ∧ definitions.primary? r.name = some .request ∧
      captures.get? ⟨r.name, document⟩ = none ∧
      fault? document definitions captures resolve r = some (.unsent, notSent r)) ∨
    ∃ capture, definitions.contains r.name = true ∧ definitions.primary? r.name = some .request ∧
      captures.get? ⟨r.name, document⟩ = some capture ∧
      fault? document definitions captures resolve r
        = (ofResolution r (resolve capture r.path)).map (.unresolved, ·) := by
  by_cases hkind : definitions.primary? r.name = some .request
  · have hdefined := Definitions.contains_of_primary?_eq_some hkind
    cases hcapture : captures.get? ⟨r.name, document⟩ with
    | none => exact .inr (.inr (.inl ⟨hdefined, hkind, rfl, fault?_of_unsent hkind hcapture⟩))
    | some capture =>
        exact .inr (.inr (.inr ⟨capture, hdefined, hkind, rfl, fault?_of_sent hkind hcapture⟩))
  · cases hdefined : definitions.contains r.name with
    | false => exact .inl ⟨rfl, hkind, fault?_of_undefined hdefined⟩
    | true => exact .inr (.inl ⟨rfl, hkind, fault?_of_defined hdefined hkind⟩)

theorem complaint?_undefined :
    complaint? document definitions captures resolve .undefined r
      = if !definitions.contains r.name then some (notFound r) else none := by
  rw [complaint?]
  rcases fault?_cases document definitions captures resolve r with ⟨hdefined, -, hfault⟩ |
    ⟨hdefined, -, hfault⟩ | ⟨hdefined, -, -, hfault⟩ | ⟨capture, hdefined, -, -, hfault⟩
  · simp [hfault, hdefined]
  · simp [hfault, hdefined]
  · simp [hfault, hdefined]
  · rw [hfault, hdefined]
    cases ofResolution r (resolve capture r.path) with
    | none => rfl
    | some complaint => rfl

theorem complaint?_unsent :
    complaint? document definitions captures resolve .unsent r
      = if definitions.primary? r.name == some .request && !captures.contains ⟨r.name, document⟩
        then some (notSent r) else none := by
  rw [complaint?, Captures.contains]
  rcases fault?_cases document definitions captures resolve r with ⟨-, hkind, hfault⟩ |
    ⟨-, hkind, hfault⟩ | ⟨-, hkind, hcapture, hfault⟩ | ⟨capture, -, -, hcapture, hfault⟩
  · simp [hfault, hkind]
  · simp [hfault, hkind]
  · simp [hfault, hkind, hcapture]
  · simp [hfault, hcapture]

theorem complaint?_unresolved :
    complaint? document definitions captures resolve .unresolved r
      = if definitions.primary? r.name == some .request
        then (captures.get? ⟨r.name, document⟩).bind (fun capture =>
          ofResolution r (resolve capture r.path)) else none := by
  rw [complaint?]
  rcases fault?_cases document definitions captures resolve r with ⟨-, hkind, hfault⟩ |
    ⟨-, hkind, hfault⟩ | ⟨-, hkind, hcapture, hfault⟩ | ⟨capture, -, hkind, hcapture, hfault⟩
  · simp [hfault, hkind]
  · simp [hfault, hkind]
  · simp [hfault, hcapture]
  · rw [hfault, hkind, hcapture, if_pos (beq_self_eq_true _), Option.bind_some]
    cases ofResolution r (resolve capture r.path) with
    | none => rfl
    | some complaint => rfl

/-- A complaint points at the reference it is about. -/
theorem range_of_fault? {found : Fault × Diagnostic}
    (h : found ∈ fault? document definitions captures resolve r) : found.2.range = r.range := by
  rw [Option.mem_def, fault?] at h
  split at h
  · split at h
    · cases h
      rfl
    · dsimp only at h
      split at h
      · cases h
      · cases h
        rfl
      · cases h
        rfl
    · cases h
  · cases h
    rfl

end Verdict

/-! ### The passes -/

/-- A pass over the groups that pass a test is a pass over the references of all groups. -/
theorem complain_filter {groups : List (String × List Reference)}
    (hnames : ∀ group ∈ groups, ∀ r ∈ group.2, r.name = group.1) (keep : String → Bool)
    (about : String → Reference → Option Diagnostic) :
    complain (groups.filter (fun group => keep group.1)) about
      = (groups.flatMap (·.2)).filterMap (fun r =>
          if keep r.name then about r.name r else none) := by
  induction groups with
  | nil => rfl
  | cons group groups ih =>
      obtain ⟨hgroup, hgroups⟩ := List.forall_mem_cons.mp hnames
      rw [List.flatMap_cons, List.filterMap_append, ← ih hgroups]
      by_cases hkeep : keep group.1 = true
      · have hhead : group.2.filterMap (fun r => if keep r.name then about r.name r else none)
            = group.2.filterMap (about group.1) := by
          apply List.filterMap_congr
          intro r hr
          rw [hgroup r hr, if_pos hkeep]
        rw [hhead, List.filter_cons, if_pos hkeep]
        rfl
      · have hhead : group.2.filterMap (fun r => if keep r.name then about r.name r else none)
            = [] := by
          apply List.filterMap_eq_nil_iff.mpr
          intro r hr
          rw [hgroup r hr, if_neg hkeep]
        rw [hhead, List.filter_cons, if_neg hkeep, List.nil_append]

section Passes

variable (document : Url) (definitions : Definitions) (rs : List Reference) (captures : Captures)
  (resolve : Resolver)

theorem undefinedVariables_ofList :
    undefinedVariables definitions (.ofList rs)
      = (References.ofList rs).ungrouped.filterMap
          (complaint? document definitions captures resolve .undefined) := by
  refine (complain_filter (fun _ hgroup _ hr => name_of_mem_groups hgroup hr)
    (fun name => !definitions.contains name) _).trans ?_
  apply List.filterMap_congr
  intro r _
  exact complaint?_undefined.symm

theorem unsentRequests_ofList :
    unsentRequests document definitions (.ofList rs) captures
      = (References.ofList rs).ungrouped.filterMap
          (complaint? document definitions captures resolve .unsent) := by
  rw [unsentRequests, requestReferences, List.filter_filter]
  refine (complain_filter (fun _ hgroup _ hr => name_of_mem_groups hgroup hr)
    (fun name => !captures.contains ⟨name, document⟩ && definitions.primary? name == some .request)
    _).trans ?_
  apply List.filterMap_congr
  intro r _
  rw [complaint?_unsent, Bool.and_comm]
  rfl

theorem unresolvedPaths_ofList :
    unresolvedPaths document definitions (.ofList rs) captures resolve
      = (References.ofList rs).ungrouped.filterMap
          (complaint? document definitions captures resolve .unresolved) := by
  refine (complain_filter (fun _ hgroup _ hr => name_of_mem_groups hgroup hr)
    (fun name => definitions.primary? name == some .request) _).trans ?_
  apply List.filterMap_congr
  intro r _
  exact complaint?_unresolved.symm

/-- The complaints about references are the verdicts on them, heading by heading. -/
theorem diagnose_ofList :
    diagnose document definitions (.ofList rs) captures resolve
      = Fault.all.flatMap (fun fault => (References.ofList rs).ungrouped.filterMap
          (complaint? document definitions captures resolve fault)) := by
  rw [diagnose, undefinedVariables_ofList document definitions rs captures resolve,
    unsentRequests_ofList document definitions rs captures resolve, unresolvedPaths_ofList]
  simp [Fault.all]

end Passes

/-! ### All complaints about a text -/

/-- The order of a report: by the first reference to the name, then by position. -/
def ReportedBefore (text : String) (r r' : Reference) : Prop :=
  let names := (occurrences text).map (·.name)
  names.idxOf r.name < names.idxOf r'.name ∨
    (r.name = r'.name ∧ r.range.start.Before r'.range.start)

section Text

variable (document : Url) (definitions : Definitions) (captures : Captures) (resolve : Resolver)

theorem filterMap_complaint? (rs : List Reference) (fault : Fault) :
    rs.filterMap (complaint? document definitions captures resolve fault)
      = ((rs.filterMap (fault? document definitions captures resolve)).filter
          (fun found => found.1 = fault)).map (·.2) := by
  induction rs with
  | nil => rfl
  | cons r rs ih =>
      unfold complaint? at ih ⊢
      cases hfault : fault? document definitions captures resolve r with
      | none => simp [hfault, ih]
      | some found =>
          by_cases heq : found.1 = fault
          · simp [hfault, heq, ih]
          · simp [hfault, heq, ih]

/-- Complaints under all headings are the verdicts, in another order. -/
theorem perm_diagnose (rs : List Reference) :
    (diagnose document definitions (.ofList rs) captures resolve).Perm
      ((rs.filterMap (fault? document definitions captures resolve)).map (·.2)) := by
  let verdict := fault? document definitions captures resolve
  have hperm : ((References.ofList rs).ungrouped.filterMap verdict).Perm (rs.filterMap verdict) :=
    (perm_ungrouped_ofList rs).filterMap verdict
  have hheadings := perm_flatMap_filter_of_forall_mem (·.1)
    ((References.ofList rs).ungrouped.filterMap verdict) Fault.nodup_all
    (fun found _ => Fault.mem_all found.1)
  rw [diagnose_ofList]
  simp only [filterMap_complaint?]
  rw [← List.map_flatMap]
  exact (hheadings.trans hperm).map (·.2)

/-- No two complaints about a text have the same range. -/
theorem nodup_range_diagnose (text : String) :
    ((diagnose document definitions (references text) captures resolve).map (·.range)).Nodup := by
  have hperm := perm_diagnose document definitions captures resolve (occurrences text)
  rw [references, (hperm.map (·.range)).nodup_iff, List.map_map]
  apply List.pairwise_map.mpr
  apply List.pairwise_filterMap.mpr
  apply (List.pairwise_map.mp (nodup_ranges_occurrences text)).imp
  intro r r' hne found hfound found' hfound' heq
  apply hne
  rw [← range_of_fault? hfound, ← range_of_fault? hfound']
  exact heq

/-- Every reference of a text is classified once.  The complaints are the verdicts on the
references, each at the range of its reference and no two at the same range.  They come heading by
heading, and under one heading by the first reference to the name and then by position. -/
theorem diagnose_eq_verdicts (text : String) :
    let verdict := fault? document definitions captures resolve
    let complaints := diagnose document definitions (references text) captures resolve
    complaints.Perm (((occurrences text).filterMap verdict).map (·.2)) ∧
    (∀ r ∈ occurrences text, ∀ found ∈ verdict r, found.2.range = r.range) ∧
    (complaints.map (·.range)).Nodup ∧
    ∃ rs : List Reference, rs.Perm (occurrences text) ∧ rs.Pairwise (ReportedBefore text) ∧
      complaints = Fault.all.flatMap (fun fault =>
        ((rs.filterMap verdict).filter (fun found => found.1 = fault)).map (·.2)) := by
  intro verdict complaints
  refine ⟨perm_diagnose document definitions captures resolve (occurrences text), ?_,
    nodup_range_diagnose document definitions captures resolve text, ?_⟩
  · intro r _ found hfound
    exact range_of_fault? hfound
  · refine ⟨(references text).ungrouped, perm_ungrouped_ofList _,
      pairwise_ungrouped_ofList (pairwise_start_occurrences text), ?_⟩
    simp only [complaints, references, diagnose_ofList, filterMap_complaint?]
    rfl

end Text

end Diagnostic

end HttpScript
