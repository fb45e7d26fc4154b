/-
Module: HttpScript.Proofs.Variable.Precedence
Purpose: What a name stands for in a document.  Every way of defining it counts at most once, and
  the order of the ways is fixed, whatever the order in which names are found.  Names of requests
  are those that the text of the document itself declares; included documents declare none for it.
Main exports: declaredNames, defines, kindsOf_definitions, primary?_definitions_eq_request_iff,
  definitions_congr
-/
import HttpScript.Proofs.Script.Unfolding
import HttpScript.Variable.Definition

namespace HttpScript

open Script

/-! ### The names of a document's own requests -/

namespace Script

/-- The name that a directive declares for a request. -/
def Directive.declaredName? : Directive → Option String
  | .inclusion _ => none
  | .variable _ => none
  | .request block => block.name

/-- The names that requests of a text declare. -/
def declaredNames (text : String) : List String :=
  (scan text).filterMap Directive.declaredName?

theorem declaredName?_eq (d : Directive) : d.declaredName? = d.request?.bind (·.name) := by
  cases d with
  | inclusion i => rfl
  | «variable» v => rfl
  | request block => rfl

/-- The requests of a tree are those of the text; includes add none. -/
theorem Unfolds.filterMap_requests {load : Loader} {document : TextDocument}
    {directives : List Directive} {nodes : Nodes} (h : Unfolds load document directives nodes) :
    nodes.requests.filterMap (·.block.name) = directives.filterMap Directive.declaredName? := by
  calc nodes.requests.filterMap (·.block.name)
      = (nodes.requests.map (·.block)).filterMap (·.name) := by
        rw [List.filterMap_map]
        rfl
    _ = directives.filterMap (fun d => d.request?.bind (·.name)) := by
        rw [h.map_block_requests, List.filterMap_filterMap]
    _ = directives.filterMap Directive.declaredName? := by
        rw [funext declaredName?_eq]

theorem IsTreeOf.filterMap_requests {load : Loader} {document : TextDocument}
    {tree : DocumentTree} (h : IsTreeOf load document tree) :
    tree.requests.filterMap (·.block.name) = declaredNames document.text :=
  h.nodes.filterMap_requests

end Script

/-! ### The ways a name is defined -/

namespace Variable

namespace Definitions

theorem get?_define (d : Definitions) (name : String) (kind : Kind) (other : String) :
    (d.define name kind).kinds.get? other
      = if other = name then
          some (if kind ∈ d.kindsOf name then d.kindsOf name else d.kindsOf name ++ [kind])
        else d.kinds.get? other := by
  simp [define]

theorem kindsOf_define (d : Definitions) (name : String) (kind : Kind) (other : String) :
    (d.define name kind).kindsOf other
      = if other = name ∧ kind ∉ d.kindsOf name then d.kindsOf other ++ [kind]
        else d.kindsOf other := by
  rw [kindsOf, get?_define]
  by_cases hname : other = name
  · subst hname
    by_cases hkind : kind ∈ d.kindsOf other
    · simp [hkind]
    · simp [hkind]
  · simp [hname, kindsOf]

/-- Names defined in one way have it once, after the ways they had, wherever and however often they
are listed. -/
theorem get?_defineAll (d : Definitions) (names : List String) (kind : Kind) (name : String) :
    (d.defineAll names kind).kinds.get? name
      = if name ∈ names then
          some (if kind ∈ d.kindsOf name then d.kindsOf name else d.kindsOf name ++ [kind])
        else d.kinds.get? name := by
  induction names generalizing d with
  | nil => rfl
  | cons first names ih =>
      have hstep : d.defineAll (first :: names) kind = (d.define first kind).defineAll names kind :=
        rfl
      rw [hstep, ih, get?_define, kindsOf_define]
      by_cases hname : name = first
      · subst hname
        by_cases hkind : kind ∈ d.kindsOf name
        · simp [hkind]
        · simp [hkind]
      · simp [hname]

theorem kindsOf_defineAll (d : Definitions) (names : List String) (kind : Kind) (name : String) :
    (d.defineAll names kind).kindsOf name
      = if name ∈ names ∧ kind ∉ d.kindsOf name then d.kindsOf name ++ [kind]
        else d.kindsOf name := by
  rw [kindsOf, get?_defineAll]
  by_cases hname : name ∈ names
  · by_cases hkind : kind ∈ d.kindsOf name
    · simp [hname, hkind]
    · simp [hname, hkind]
  · simp [hname, kindsOf]

end Definitions

/-- Whether a document defines a name in some way. -/
def defines (t : DocumentTree) (environment : Dict String) (name : String) : Kind → Bool
  | .system => false
  | .request => (t.requests.filterMap (·.block.name)).contains name
  | .file => (fileBindings t).contains name
  | .environment => environment.contains name

/-- A name is defined in the ways that apply to it, in the order in which they count. -/
theorem kindsOf_definitions (t : DocumentTree) (environment : Dict String) (name : String) :
    (definitions t environment).kindsOf name = Kind.all.filter (defines t environment name) := by
  have hempty : Definitions.empty.kindsOf name = [] := rfl
  rw [definitions]
  simp only [Definitions.kindsOf_defineAll, hempty, Dict.mem_keys]
  by_cases hrequest : name ∈ t.requests.filterMap (·.block.name) <;>
    by_cases hfile : (fileBindings t).contains name = true <;>
    by_cases henvironment : environment.contains name = true <;>
    simp [Kind.all, defines, hrequest, hfile, henvironment]

/-- A name stands for a request exactly if one of the document's own requests has it. -/
theorem primary?_definitions_eq_request_iff {t : DocumentTree} {environment : Dict String}
    {name : String} :
    (definitions t environment).primary? name = some .request
      ↔ name ∈ t.requests.filterMap (·.block.name) := by
  rw [Definitions.primary?, kindsOf_definitions, List.head?_filter]
  constructor
  · intro h
    simpa only [defines, List.contains_iff_mem] using List.find?_some h
  · intro h
    simp only [Kind.all, List.find?_cons, defines, List.contains_iff_mem.mpr h]

/-- Only the names of an environment count as definitions. -/
theorem definitions_congr {t : DocumentTree} {environment environment' : Dict String}
    (h : ∀ name, environment.contains name = environment'.contains name) :
    definitions t environment = definitions t environment' := by
  rw [definitions, definitions, Dict.keys_eq_of_contains_eq h]

end Variable

end HttpScript
