/-
Module: HttpScript.Proofs.Variable.FirstVisit
Purpose: Which file variables a document sees, and with which values.  A walk through the tree of a
  document goes into each included document once, where it stands first.  No name is lost by that,
  because a document has the same nodes wherever it stands, and the value of a name is the one that
  the walk meets last.
Main exports: Nodes.allVariables, Site, DocumentTree.sites, DocumentTree.firstVariables, WalkedOnce,
  Covered, exists_walkedOnce_firstVariables, mem_firstVariables_iff, fileBindings_first_visit
-/
import Mathlib.Data.List.Induction
import HttpScript.Proofs.Script.IncludedDocument
import HttpScript.Variable.FileBindings

namespace HttpScript

open Script

namespace Script

/-! ### The file variables of a tree -/

/-- Every file variable, those of included documents too, in the order of the text. -/
def Nodes.allVariables : Nodes → List FileVariable
  | .nil => []
  | .inclusion _ _ _ document rest => document.allVariables ++ rest.allVariables
  | .variable v rest => v :: rest.allVariables
  | .request _ rest => rest.allVariables

/-- The documents that nodes include, directly or not, in the order of the text. -/
def Nodes.includedUrls (nodes : Nodes) : List Url :=
  nodes.allInclusions.map (·.2.uri)

@[simp] theorem Nodes.includedUrls_inclusion (range : Range) (path : IncludePath) (uri : Url)
    (document rest : Nodes) : (Nodes.inclusion range path uri document rest).includedUrls =
      uri :: (document.includedUrls ++ rest.includedUrls) := by
  simp [Nodes.includedUrls, Nodes.allInclusions]

/-- A file variable at its place in a tree. -/
structure Site where
  /-- The documents that begin in front of the one the variable stands in. -/
  before : List Url
  /-- The document the variable stands in. -/
  document : Url
  definition : FileVariable

/-- Whether the document of a file variable begins there for the first time. -/
def Site.isFirst (s : Site) : Bool :=
  !s.before.contains s.document

/-- Every file variable of nodes at its place.  In front of the nodes begin the documents `met`, and
in front of the document that the nodes are of those among them that are in `before`. -/
def Nodes.sites (before : List Url) (document : Url) : Nodes → List Url → List Site
  | .nil, _ => []
  | .inclusion _ _ uri included rest, met =>
    included.sites met uri (met ++ [uri]) ++
      rest.sites before document (met ++ uri :: included.includedUrls)
  | .variable v rest, met => ⟨before, document, v⟩ :: rest.sites before document met
  | .request _ rest, met => rest.sites before document met

/-- Every file variable of a tree at its place. -/
def DocumentTree.sites (t : DocumentTree) : List Site :=
  t.nodes.sites [] t.uri [t.uri]

/-- The file variables of all documents where these stand first. -/
def DocumentTree.firstVariables (t : DocumentTree) : List FileVariable :=
  (t.sites.filter Site.isFirst).map (·.definition)

theorem Nodes.map_definition_sites (nodes : Nodes) (before : List Url) (document : Url)
    (met : List Url) : (nodes.sites before document met).map (·.definition) =
      nodes.allVariables := by
  induction nodes generalizing before document met with
  | nil => rfl
  | inclusion range path uri included rest ihIncluded ihRest =>
      rw [Nodes.sites, List.map_append, ihIncluded, ihRest, Nodes.allVariables]
  | «variable» v rest ih => rw [Nodes.sites, List.map_cons, ih, Nodes.allVariables]
  | request node rest ih => exact ih before document met

/-- Where a document and all it includes have been met before, nothing stands first. -/
theorem Nodes.filter_isFirst_sites_eq_nil {nodes : Nodes} {before : List Url} {document : Url}
    {met : List Url} (hmet : ∀ u ∈ nodes.includedUrls, u ∈ met) (hbefore : document ∈ before) :
    (nodes.sites before document met).filter Site.isFirst = [] := by
  induction nodes generalizing before document met with
  | nil => rfl
  | inclusion range path uri included rest ihIncluded ihRest =>
      rw [Nodes.includedUrls_inclusion, List.forall_mem_cons, List.forall_mem_append] at hmet
      obtain ⟨huri, hincluded, hrest⟩ := hmet
      rw [Nodes.sites, List.filter_append,
        ihIncluded (fun u hu => List.mem_append_left _ (hincluded u hu)) huri,
        ihRest (fun u hu => List.mem_append_left _ (hrest u hu)) hbefore, List.nil_append]
  | «variable» v rest ih =>
      rw [Nodes.sites, List.filter_cons_of_neg, ih hmet hbefore]
      simpa [Site.isFirst] using hbefore
  | request node rest ih => exact ih hmet hbefore

end Script

namespace Variable

/-! ### A walk into each document once -/

/-- A walk through nodes in the order of the text that goes into a document unless it has been in it:
the documents it has been in at first, the nodes, the file variables it meets and the documents it
has been in at last. -/
inductive WalkedOnce : List Url → Nodes → List FileVariable → List Url → Prop where
  | nil {seen : List Url} : WalkedOnce seen .nil [] seen
  | enter {range : Range} {path : IncludePath} {uri : Url} {document rest : Nodes}
      {seen inner outer : List Url} {inside behind : List FileVariable} (fresh : uri ∉ seen)
      (document_walked : WalkedOnce (uri :: seen) document inside inner)
      (rest_walked : WalkedOnce inner rest behind outer) :
      WalkedOnce seen (.inclusion range path uri document rest) (inside ++ behind) outer
  | pass {range : Range} {path : IncludePath} {uri : Url} {document rest : Nodes}
      {seen outer : List Url} {behind : List FileVariable} (known : uri ∈ seen)
      (rest_walked : WalkedOnce seen rest behind outer) :
      WalkedOnce seen (.inclusion range path uri document rest) behind outer
  | variable {v : FileVariable} {rest : Nodes} {seen outer : List Url}
      {behind : List FileVariable} (rest_walked : WalkedOnce seen rest behind outer) :
      WalkedOnce seen (.variable v rest) (v :: behind) outer
  | request {node : RequestNode} {rest : Nodes} {seen outer : List Url}
      {behind : List FileVariable} (rest_walked : WalkedOnce seen rest behind outer) :
      WalkedOnce seen (.request node rest) behind outer

variable {nodes : Nodes} {seen seen' : List Url} {vs : List FileVariable}

/-- Bindings are collected on such a walk. -/
theorem exists_walkedOnce (nodes : Nodes) (c : Collected) : ∃ vs seen,
    WalkedOnce c.visited nodes vs seen ∧
      Collected.visit nodes c = ⟨seen, vs.foldl (fun d v => d.insert v.key v.value) c.bindings⟩ := by
  induction nodes generalizing c with
  | nil => exact ⟨[], c.visited, .nil, rfl⟩
  | inclusion range path uri document rest ihDocument ihRest =>
      by_cases hknown : uri ∈ c.visited
      · obtain ⟨vs, seen, hwalk, heq⟩ := ihRest c
        refine ⟨vs, seen, .pass hknown hwalk, ?_⟩
        rw [Collected.visit, if_pos (List.contains_iff_mem.mpr hknown), heq]
      · obtain ⟨inside, inner, hinside, hdocument⟩ :=
          ihDocument { c with visited := uri :: c.visited }
        obtain ⟨behind, outer, hbehind, hrest⟩ := ihRest
          ⟨inner, inside.foldl (fun d v => d.insert v.key v.value) c.bindings⟩
        refine ⟨inside ++ behind, outer, .enter hknown hinside hbehind, ?_⟩
        rw [Collected.visit, if_neg (by simpa using hknown), hdocument, hrest, List.foldl_append]
  | «variable» v rest ih =>
      obtain ⟨vs, seen, hwalk, heq⟩ := ih { c with bindings := c.bindings.insert v.key v.value }
      exact ⟨v :: vs, seen, .variable hwalk, heq⟩
  | request node rest ih =>
      obtain ⟨vs, seen, hwalk, heq⟩ := ih c
      exact ⟨vs, seen, .request hwalk, heq⟩

theorem WalkedOnce.seen_subset (h : WalkedOnce seen nodes vs seen') : seen ⊆ seen' := by
  induction h with
  | nil => exact List.Subset.refl _
  | enter _ _ _ ihDocument ihRest =>
      exact fun u hu => ihRest (ihDocument (List.mem_cons_of_mem _ hu))
  | pass _ _ ih => exact ih
  | «variable» _ ih => exact ih
  | request _ ih => exact ih

theorem WalkedOnce.of_mem_seen (h : WalkedOnce seen nodes vs seen') {u : Url} (hu : u ∈ seen') :
    u ∈ seen ∨ u ∈ nodes.includedUrls := by
  induction h with
  | nil => exact .inl hu
  | enter _ _ _ ihDocument ihRest =>
      rw [Nodes.includedUrls_inclusion, List.mem_cons, List.mem_append]
      rcases ihRest hu with hu | hu
      · rcases ihDocument hu with hu | hu
        · exact (List.mem_cons.mp hu).elim (fun heq => .inr (.inl heq)) .inl
        · exact .inr (.inr (.inl hu))
      · exact .inr (.inr (.inr hu))
  | pass _ _ ih =>
      rw [Nodes.includedUrls_inclusion, List.mem_cons, List.mem_append]
      exact (ih hu).imp_right fun hu => .inr (.inr hu)
  | «variable» _ ih => exact ih hu
  | request _ ih => exact ih hu

/-- A walk that has been in all documents it could go into has been in no others. -/
theorem WalkedOnce.mem_seen_iff (h : WalkedOnce seen nodes vs seen')
    (hall : ∀ u ∈ nodes.includedUrls, u ∈ seen') {u : Url} :
    u ∈ seen' ↔ u ∈ seen ∨ u ∈ nodes.includedUrls :=
  ⟨h.of_mem_seen, fun hu => hu.elim (h.seen_subset ·) (hall u)⟩

theorem WalkedOnce.subset_allVariables (h : WalkedOnce seen nodes vs seen') :
    vs ⊆ nodes.allVariables := by
  induction h with
  | nil => exact List.Subset.refl _
  | enter _ _ _ ihDocument ihRest =>
      intro v hv
      rcases List.mem_append.mp hv with hv | hv
      · exact List.mem_append_left _ (ihDocument hv)
      · exact List.mem_append_right _ (ihRest hv)
  | pass _ _ ih => exact fun v hv => List.mem_append_right _ (ih hv)
  | «variable» _ ih => exact List.cons_subset_cons _ ih
  | request _ ih => exact ih

/-! ### What has been seen has been collected -/

/-- Of the documents that a walk has been in, all that they include has been seen and all their file
variables have been found, apart from the documents `above` that it is still in. -/
def Covered (tree : DocumentTree) (above seen : List Url) (found : List FileVariable) : Prop :=
  ∀ d ∈ tree.documents, d.uri ∈ seen → d.uri ∉ above →
    (∀ u ∈ d.nodes.includedUrls, u ∈ seen) ∧ ∀ v ∈ d.nodes.allVariables, v ∈ found

/-- The included documents are documents of the tree, and none of them is one of those `above`. -/
def Below (tree : DocumentTree) (above : List Url) (nodes : Nodes) : Prop :=
  ∀ i ∈ nodes.allInclusions, i.2 ∈ tree.documents ∧ i.2.uri ∉ above

section Coverage

variable {load : Loader} {maxDepth : Nat} {document : TextDocument} {tree : DocumentTree}
  {above : List Url} {found : List FileVariable} {range : Range} {path : IncludePath} {uri : Url}
  {included rest : Nodes}

theorem Below.mem_documents (h : Below tree above (.inclusion range path uri included rest)) :
    ⟨uri, included⟩ ∈ tree.documents :=
  (h _ List.mem_cons_self).1

theorem Below.notMem (h : Below tree above (.inclusion range path uri included rest)) :
    uri ∉ above :=
  (h _ List.mem_cons_self).2

theorem Below.of_rest (h : Below tree above (.inclusion range path uri included rest)) :
    Below tree above rest :=
  fun i hi => h i (List.mem_cons_of_mem _ (List.mem_append_right _ hi))

/-- A document does not include itself. -/
theorem Below.of_included (hexpand : expand load maxDepth document = .ok tree)
    (h : Below tree above (.inclusion range path uri included rest)) :
    Below tree (uri :: above) included := by
  intro i hi
  obtain ⟨hmem, habove⟩ := h i (List.mem_cons_of_mem _ (List.mem_append_left _ hi))
  refine ⟨hmem, ?_⟩
  rw [List.mem_cons, not_or]
  obtain ⟨document', hexpand'⟩ := exists_expand_of_mem_documents hexpand h.mem_documents
  exact ⟨uri_ne_of_mem_allInclusions hexpand' hi, habove⟩

theorem below_nodes (hexpand : expand load maxDepth document = .ok tree) :
    Below tree [tree.uri] tree.nodes := by
  intro i hi
  refine ⟨DocumentTree.mem_documents_iff.mpr (.inr ⟨i, hi, rfl⟩), ?_⟩
  rw [List.mem_singleton]
  exact uri_ne_of_mem_allInclusions hexpand hi

theorem Covered.enter (h : Covered tree above seen found) :
    Covered tree (uri :: above) (uri :: seen) found := by
  intro d hd hseen habove
  rw [List.mem_cons, not_or] at habove
  obtain ⟨hurls, hvariables⟩ := h d hd (List.mem_of_ne_of_mem habove.1 hseen) habove.2
  exact ⟨fun u hu => List.mem_cons_of_mem _ (hurls u hu), hvariables⟩

theorem Covered.mono {found' : List FileVariable} (h : Covered tree above seen found)
    (hsubset : found ⊆ found') : Covered tree above seen found' := by
  intro d hd hseen habove
  obtain ⟨hurls, hvariables⟩ := h d hd hseen habove
  exact ⟨hurls, fun v hv => hsubset (hvariables v hv)⟩

/-- A document is covered once the walk through it is over, wherever else it stands. -/
theorem Covered.leave (hexpand : expand load maxDepth document = .ok tree)
    (hmem : ⟨uri, included⟩ ∈ tree.documents) (h : Covered tree (uri :: above) seen found)
    (hurls : ∀ u ∈ included.includedUrls, u ∈ seen)
    (hvariables : ∀ v ∈ included.allVariables, v ∈ found) : Covered tree above seen found := by
  intro d hd hseen habove
  by_cases huri : d.uri = uri
  · obtain rfl := eq_of_mem_documents hexpand hd hmem huri
    exact ⟨hurls, hvariables⟩
  · exact h d hd hseen (by simp [huri, habove])

/-- A walk covers the documents that it goes into and those that it passes. -/
theorem WalkedOnce.covered (hexpand : expand load maxDepth document = .ok tree)
    (h : WalkedOnce seen nodes vs seen') (hbelow : Below tree above nodes)
    (hcovered : Covered tree above seen found) :
    Covered tree above seen' (found ++ vs) ∧ (∀ u ∈ nodes.includedUrls, u ∈ seen') ∧
      ∀ v ∈ nodes.allVariables, v ∈ found ++ vs := by
  induction h generalizing above found with
  | nil =>
      rw [List.append_nil]
      exact ⟨hcovered, fun u hu => (nomatch hu), fun v hv => (nomatch hv)⟩
  | @enter range path uri included rest seen inner outer inside behind _ hincluded hrest
      ihIncluded ihRest =>
      obtain ⟨hinner, hurls, hvariables⟩ :=
        ihIncluded (hbelow.of_included hexpand) hcovered.enter
      obtain ⟨houter, hurls', hvariables'⟩ :=
        ihRest hbelow.of_rest (hinner.leave hexpand hbelow.mem_documents hurls hvariables)
      rw [List.append_assoc] at houter hvariables'
      refine ⟨houter, ?_, ?_⟩
      · rw [Nodes.includedUrls_inclusion, List.forall_mem_cons, List.forall_mem_append]
        refine ⟨?_, fun u hu => hrest.seen_subset (hurls u hu), hurls'⟩
        exact hrest.seen_subset (hincluded.seen_subset List.mem_cons_self)
      · rw [Nodes.allVariables, List.forall_mem_append]
        refine ⟨?_, hvariables'⟩
        intro v hv
        rw [← List.append_assoc]
        exact List.mem_append_left _ (hvariables v hv)
  | @pass range path uri included rest seen outer behind hknown hrest ih =>
      obtain ⟨hurls, hvariables⟩ := hcovered _ hbelow.mem_documents hknown hbelow.notMem
      obtain ⟨houter, hurls', hvariables'⟩ := ih hbelow.of_rest hcovered
      refine ⟨houter, ?_, ?_⟩
      · rw [Nodes.includedUrls_inclusion, List.forall_mem_cons, List.forall_mem_append]
        exact ⟨hrest.seen_subset hknown, fun u hu => hrest.seen_subset (hurls u hu), hurls'⟩
      · rw [Nodes.allVariables, List.forall_mem_append]
        exact ⟨fun v hv => List.mem_append_left _ (hvariables v hv), hvariables'⟩
  | @«variable» v rest seen outer behind _ ih =>
      obtain ⟨houter, hurls, hvariables⟩ :=
        ih hbelow (hcovered.mono (List.subset_append_left found [v]))
      rw [List.append_assoc, List.singleton_append] at houter hvariables
      refine ⟨houter, hurls, ?_⟩
      rw [Nodes.allVariables, List.forall_mem_cons]
      exact ⟨List.mem_append_right _ List.mem_cons_self, hvariables⟩
  | request _ ih => exact ih hbelow hcovered

/-- A walk meets the file variables of the documents where these stand first. -/
theorem WalkedOnce.eq_filter_isFirst (hexpand : expand load maxDepth document = .ok tree)
    (h : WalkedOnce seen nodes vs seen') (hbelow : Below tree above nodes)
    (hcovered : Covered tree above seen found) {before met : List Url} {own : Url}
    (hown : own ∉ before) (hmet : ∀ u, u ∈ met ↔ u ∈ seen) :
    vs = ((nodes.sites before own met).filter Site.isFirst).map (·.definition) := by
  induction h generalizing above found before met own with
  | nil => rfl
  | @enter range path uri included rest seen inner outer inside behind hfresh hincluded hrest
      ihIncluded ihRest =>
      have hbelow' := hbelow.of_included hexpand
      obtain ⟨hinner, hurls, hvariables⟩ := hincluded.covered hexpand hbelow' hcovered.enter
      have hcons : ∀ u, u ∈ met ++ [uri] ↔ u ∈ uri :: seen := by
        intro u
        rw [List.mem_append, List.mem_singleton, List.mem_cons, hmet, or_comm]
      have hinside :=
        ihIncluded hbelow' hcovered.enter (fun huri => hfresh ((hmet uri).mp huri)) hcons
      have hmet' : ∀ u, u ∈ met ++ uri :: included.includedUrls ↔ u ∈ inner := by
        intro u
        rw [List.mem_append, List.mem_cons, hmet, hincluded.mem_seen_iff hurls, List.mem_cons,
          or_left_comm, or_assoc]
      have hbehind := ihRest hbelow.of_rest
        (hinner.leave hexpand hbelow.mem_documents hurls hvariables) hown hmet'
      rw [Nodes.sites, List.filter_append, List.map_append, ← hinside, ← hbehind]
  | @pass range path uri included rest seen outer behind hknown hrest ih =>
      obtain ⟨hurls, -⟩ := hcovered _ hbelow.mem_documents hknown hbelow.notMem
      have hnone : (included.sites met uri (met ++ [uri])).filter Site.isFirst = [] :=
        Nodes.filter_isFirst_sites_eq_nil
          (fun u hu => List.mem_append_left _ ((hmet u).mpr (hurls u hu))) ((hmet uri).mpr hknown)
      have hmet' : ∀ u, u ∈ met ++ uri :: included.includedUrls ↔ u ∈ seen := by
        intro u
        rw [List.mem_append, List.mem_cons, hmet]
        constructor
        · rintro (hu | rfl | hu)
          · exact hu
          · exact hknown
          · exact hurls u hu
        · exact .inl
      rw [Nodes.sites, List.filter_append, hnone, List.nil_append]
      exact ih hbelow.of_rest hcovered hown hmet'
  | @«variable» v rest seen outer behind _ ih =>
      have hfirst : Site.isFirst ⟨before, own, v⟩ = true := by simpa [Site.isFirst] using hown
      rw [Nodes.sites, List.filter_cons_of_pos hfirst, List.map_cons,
        ← ih hbelow hcovered hown hmet]
  | request _ ih => exact ih hbelow hcovered hown hmet

/-- In front of the nodes of a tree stands the tree itself, and the walk is still in it. -/
theorem covered_self (tree : DocumentTree) : Covered tree [tree.uri] [tree.uri] [] :=
  fun _ _ hseen habove => absurd hseen habove

/-! ### The bindings of a tree -/

/-- The bindings of a tree are those that a walk through it meets. -/
theorem exists_walkedOnce_firstVariables (hexpand : expand load maxDepth document = .ok tree) :
    ∃ seen, WalkedOnce [tree.uri] tree.nodes tree.firstVariables seen ∧
      fileBindings tree = tree.firstVariables.foldl (fun d v => d.insert v.key v.value) {} := by
  obtain ⟨vs, seen, hwalk, heq⟩ := exists_walkedOnce tree.nodes ⟨[tree.uri], {}⟩
  have hfirst : vs = tree.firstVariables :=
    hwalk.eq_filter_isFirst hexpand (below_nodes hexpand) (covered_self tree) List.not_mem_nil
      (fun _ => Iff.rfl)
  rw [← hfirst]
  exact ⟨seen, hwalk, by rw [fileBindings, heq]⟩

/-- Documents are passed over, but no file variable is lost. -/
theorem mem_firstVariables_iff (hexpand : expand load maxDepth document = .ok tree)
    {v : FileVariable} : v ∈ tree.firstVariables ↔ v ∈ tree.nodes.allVariables := by
  obtain ⟨seen, hwalk, -⟩ := exists_walkedOnce_firstVariables hexpand
  obtain ⟨-, -, hall⟩ := hwalk.covered hexpand (below_nodes hexpand) (covered_self tree)
  exact ⟨fun hv => hwalk.subset_allVariables hv, hall v⟩

end Coverage

/-- The last of some bindings of a name replaces the others. -/
theorem get?_foldl_insert (vs : List FileVariable) (name : String) :
    (vs.foldl (fun d v => d.insert v.key v.value) ({} : Dict String)).get? name =
      (vs.filter (fun v => v.key = name)).getLast?.map (·.value) := by
  induction vs using List.reverseRecOn with
  | nil => rfl
  | append_singleton vs v ih =>
      rw [List.foldl_append, List.foldl_cons, List.foldl_nil, Dict.get?_insert, List.filter_append]
      by_cases hkey : v.key = name
      · simp [hkey]
      · simp [hkey, Ne.symm hkey, ih]

theorem contains_foldl_insert_iff {vs : List FileVariable} {name : String} :
    (vs.foldl (fun d v => d.insert v.key v.value) ({} : Dict String)).contains name = true ↔
      ∃ v ∈ vs, v.key = name := by
  rw [Dict.contains, get?_foldl_insert, Option.isSome_map, List.getLast?_isSome, ne_eq,
    List.filter_eq_nil_iff]
  simp

/-- A name is bound in a tree exactly if some file variable of it has the name. -/
theorem contains_fileBindings_iff {load : Loader} {maxDepth : Nat} {document : TextDocument}
    {tree : DocumentTree} (hexpand : expand load maxDepth document = .ok tree) {name : String} :
    (fileBindings tree).contains name = true ↔ ∃ v ∈ tree.nodes.allVariables, v.key = name := by
  obtain ⟨-, -, hbindings⟩ := exists_walkedOnce_firstVariables hexpand
  rw [hbindings, contains_foldl_insert_iff]
  simp only [mem_firstVariables_iff hexpand]

/-- The names bound in a document are those of the file variables anywhere in its tree.  The value of
a name is the last that stands in a document where the document stands first, which is the last that
a walk meets that goes into each document once. -/
theorem fileBindings_first_visit (load : Loader) (maxDepth : Nat) (document : TextDocument)
    (tree : DocumentTree) (h : expand load maxDepth document = .ok tree) :
    tree.sites.map (·.definition) = tree.nodes.allVariables ∧
    (∃ seen, WalkedOnce [tree.uri] tree.nodes tree.firstVariables seen) ∧
    ∀ name,
      (name ∈ (fileBindings tree).keys ↔ ∃ v ∈ tree.nodes.allVariables, v.key = name) ∧
      (fileBindings tree).get? name =
        (tree.firstVariables.filter (fun v => v.key = name)).getLast?.map (·.value) := by
  obtain ⟨seen, hwalk, hbindings⟩ := exists_walkedOnce_firstVariables h
  refine ⟨Nodes.map_definition_sites _ _ _ _, ⟨seen, hwalk⟩, fun name => ⟨?_, ?_⟩⟩
  · rw [Dict.mem_keys, contains_fileBindings_iff h]
  · rw [hbindings, get?_foldl_insert]

/-! ### A document that two others include -/

/-- Two files that include a third one, of which the second defines a name beforehand. -/
def sharedFiles : MemoryFiles :=
  .ofList [
    (.ofString "/work/b.http", "@@include d.http\n"),
    (.ofString "/work/c.http", "@x = c\n@@include d.http\n"),
    (.ofString "/work/d.http", "@x = d\n@y = d\n")]

def sharedRoot : TextDocument :=
  ⟨workUrl "a.http", "@@include b.http\n@@include c.http\n"⟩

def sharedTree : DocumentTree :=
  let leaf : Nodes := .variable ⟨.onLine 0 0 6, "x", "d"⟩ (.variable ⟨.onLine 1 0 6, "y", "d"⟩ .nil)
  ⟨workUrl "a.http",
    workInclusion 0 "b.http" (workInclusion 0 "d.http" leaf .nil)
      (workInclusion 1 "c.http"
        (.variable ⟨.onLine 0 0 6, "x", "c"⟩ (workInclusion 1 "d.http" leaf .nil)) .nil)⟩

/-- The third file counts in front of the second one's definition only, which it would replace
behind. -/
theorem fileBindings_first_visit_shared :
    expand sharedFiles.load 2 sharedRoot = .ok sharedTree ∧
    "y" ∈ (fileBindings sharedTree).keys ∧ (fileBindings sharedTree).get? "x" = some "c" := by
  have hexpand : expand sharedFiles.load 2 sharedRoot = .ok sharedTree := by decide +kernel
  obtain ⟨-, -, hbindings⟩ :=
    fileBindings_first_visit sharedFiles.load 2 sharedRoot sharedTree hexpand
  refine ⟨hexpand, (hbindings "y").1.mpr ?_, ?_⟩
  · exact ⟨⟨.onLine 1 0 6, "y", "d"⟩, by decide, rfl⟩
  · rw [(hbindings "x").2]
    decide

end Variable

end HttpScript
