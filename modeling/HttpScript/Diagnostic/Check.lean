/-
Module: HttpScript.Diagnostic.Check
Purpose: The complaints about a document's references: names that are defined nowhere, requests that
  have not been sent, and paths that lead nowhere in the captured exchange.
Main exports: undefinedVariables, unsentRequests, unresolvedPaths, diagnose
-/
import HttpScript.Diagnostic.Basic
import HttpScript.Variable.CapturePath
import HttpScript.Variable.Definition
import HttpScript.Variable.Reference

namespace HttpScript.Diagnostic

open Variable

/-- The codes of the complaints. -/
def undefinedVariable : String := "undefined-variable"
def requestNotSent : String := "request-not-sent"
def requestVariableUnresolved : String := "request-variable-unresolved"

/-- The references of the groups that pass a test, with what is said about each. -/
def complain (groups : List (String × List Reference))
    (about : String → Reference → Option Diagnostic) : List Diagnostic :=
  groups.flatMap (fun g => g.2.filterMap (about g.1))

/-- A reference to a name that is defined nowhere. -/
def undefinedVariables (definitions : Definitions) (references : References) : List Diagnostic :=
  complain (references.groups.filter (fun g => !definitions.contains g.1)) (fun name r =>
    some {
      range := r.range
      severity := .error
      message := s!"{name} is not found"
      code := some undefinedVariable
      suggestion := some <|
        s!"Define it with '@{name} = value' or add it to the active environment" })

/-- The references that stand for requests. -/
def requestReferences (definitions : Definitions) (references : References) :
    List (String × List Reference) :=
  references.groups.filter (fun g => definitions.primary? g.1 == some .request)

/-- A reference to a request of the document that has not been sent. -/
def unsentRequests (document : Url) (definitions : Definitions) (references : References)
    (captures : Captures) : List Diagnostic :=
  complain ((requestReferences definitions references).filter
      (fun g => !captures.contains ⟨g.1, document⟩)) (fun name r =>
    some {
      range := r.range
      severity := .error
      message := s!"Request '{name}' has not been sent"
      code := some requestNotSent
      suggestion := none })

/-- What a resolution that did not succeed says about a reference. -/
def ofResolution (r : Reference) (resolution : Resolution) : Option Diagnostic :=
  let severity? : Option Severity := match resolution.state with
    | .success => none
    | .warning => some .warning
    | .error => some .error
  severity?.map (fun severity => {
    range := r.range
    severity := severity
    message := resolution.message.getD ""
    code := some requestVariableUnresolved
    suggestion := none })

/-- A reference into the exchange of a request that does not resolve. -/
def unresolvedPaths (document : Url) (definitions : Definitions) (references : References)
    (captures : Captures) (resolve : Resolver) : List Diagnostic :=
  complain (requestReferences definitions references) (fun name r =>
    (captures.get? ⟨name, document⟩).bind (fun capture =>
      ofResolution r (resolve capture r.path)))

/-- All complaints about a document, by kind and then in the order of the references. -/
def diagnose (document : Url) (definitions : Definitions) (references : References)
    (captures : Captures) (resolve : Resolver) : List Diagnostic :=
  undefinedVariables definitions references
    ++ unsentRequests document definitions references captures
    ++ unresolvedPaths document definitions references captures resolve

end HttpScript.Diagnostic
