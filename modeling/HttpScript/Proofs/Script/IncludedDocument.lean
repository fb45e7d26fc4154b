/-
Module: HttpScript.Proofs.Script.IncludedDocument
Purpose: The documents inside an expanded tree.  Each of them is the tree that its own expansion
  gives, so the documents around it and the room left below it leave no trace.  A document is
  therefore never found below itself, no way down is longer than the limit, and one document is the
  same tree wherever it is included.
Main exports: Nodes.allInclusions, DocumentTree.documents, DocumentTree.Descent,
  expand_of_mem_allInclusions, includesDocument_self, expand_tree_invariants,
  expand_context_independent
-/
import HttpScript.Proofs.Script.Unfolding
import Mathlib.Control.Monad.Basic

namespace HttpScript.Script

/-! ### The documents of a tree -/

/-- The includes of a document itself. -/
def Nodes.inclusions : Nodes → List (IncludePath × DocumentTree)
  | .nil => []
  | .inclusion _ path uri document rest => (path, ⟨uri, document⟩) :: rest.inclusions
  | .variable _ rest => rest.inclusions
  | .request _ rest => rest.inclusions

/-- Every include, those of included documents too. -/
def Nodes.allInclusions : Nodes → List (IncludePath × DocumentTree)
  | .nil => []
  | .inclusion _ path uri document rest =>
    (path, ⟨uri, document⟩) :: (document.allInclusions ++ rest.allInclusions)
  | .variable _ rest => rest.allInclusions
  | .request _ rest => rest.allInclusions

/-- A document and every document it includes, directly or not. -/
def DocumentTree.documents (t : DocumentTree) : List DocumentTree :=
  t :: t.nodes.allInclusions.map (·.2)

/-- The documents met on a way down from a document, which goes from each to one it includes. -/
inductive DocumentTree.Descent : DocumentTree → List DocumentTree → Prop where
  | stop (t : DocumentTree) : Descent t [t]
  | into {t child : DocumentTree} {path : IncludePath} {below : List DocumentTree}
      (hmem : (path, child) ∈ t.nodes.inclusions) (hbelow : Descent child below) :
      Descent t (t :: below)

variable {load : Loader} {document : TextDocument} {maxDepth : Nat}

theorem Nodes.inclusions_subset {nodes : Nodes} {i : IncludePath × DocumentTree}
    (h : i ∈ nodes.inclusions) : i ∈ nodes.allInclusions := by
  induction nodes with
  | nil => cases h
  | inclusion range path uri document rest _ ihRest =>
      rcases List.mem_cons.mp h with rfl | h
      · exact List.mem_cons_self
      · exact List.mem_cons_of_mem _ (List.mem_append_right _ (ihRest h))
  | «variable» v rest ih => exact ih h
  | request node rest ih => exact ih h

/-- Includes of an included document are includes of the document around it. -/
theorem Nodes.allInclusions_trans {nodes : Nodes} {i j : IncludePath × DocumentTree}
    (hi : i ∈ nodes.allInclusions) (hj : j ∈ i.2.nodes.allInclusions) :
    j ∈ nodes.allInclusions := by
  induction nodes with
  | nil => cases hi
  | inclusion range path uri document rest ihDocument ihRest =>
      rcases List.mem_cons.mp hi with rfl | hi
      · exact List.mem_cons_of_mem _ (List.mem_append_left _ hj)
      · rcases List.mem_append.mp hi with hi | hi
        · exact List.mem_cons_of_mem _ (List.mem_append_left _ (ihDocument hi))
        · exact List.mem_cons_of_mem _ (List.mem_append_right _ (ihRest hi))
  | «variable» v rest ih => exact ih hi
  | request node rest ih => exact ih hi

theorem DocumentTree.mem_documents_iff {t u : DocumentTree} :
    u ∈ t.documents ↔ u = t ∨ ∃ i ∈ t.nodes.allInclusions, i.2 = u := by
  simp only [DocumentTree.documents, List.mem_cons, List.mem_map]

/-- The documents of an included document are included. -/
theorem Nodes.exists_mem_allInclusions {nodes : Nodes} {i : IncludePath × DocumentTree}
    {u : DocumentTree} (hi : i ∈ nodes.allInclusions) (hu : u ∈ i.2.documents) :
    ∃ j ∈ nodes.allInclusions, j.2 = u := by
  rcases DocumentTree.mem_documents_iff.mp hu with rfl | ⟨j, hj, rfl⟩
  · exact ⟨i, hi, rfl⟩
  · exact ⟨j, Nodes.allInclusions_trans hi hj, rfl⟩

/-- Whether a document is included is whether it is among the included ones. -/
theorem Nodes.includes_eq_true_iff {nodes : Nodes} {uri : Url} :
    nodes.includes uri = true ↔ ∃ i ∈ nodes.allInclusions, i.2.uri = uri := by
  induction nodes with
  | nil => simp [Nodes.includes, Nodes.allInclusions]
  | inclusion range path u document rest ihDocument ihRest =>
      simp only [Nodes.includes, Nodes.allInclusions, Bool.or_eq_true, beq_iff_eq, ihDocument,
        ihRest, List.mem_cons, List.mem_append, or_assoc, or_and_right, exists_or, exists_eq_left]
  | «variable» v rest ih => exact ih
  | request node rest ih => exact ih

/-! ### An included document is its own tree -/

/-- What stands in a tree for an include: the path has been resolved, and the document at the path
is there with its own tree. -/
structure IsInclusion (load : Loader) (i : IncludePath × DocumentTree) : Prop where
  resolved : ∃ base target, i.1.absolute = FilePath.resolve base target
  uri : Url.ofFilePath? i.1.absolute = some i.2.uri
  tree : ∃ text, load i.1.absolute = .ok text ∧ IsTreeOf load ⟨i.2.uri, text⟩ i.2

theorem Unfolds.isInclusion {directives : List Directive} {nodes : Nodes}
    {i : IncludePath × DocumentTree} (h : Unfolds load document directives nodes)
    (hi : i ∈ nodes.allInclusions) : IsInclusion load i := by
  induction h with
  | nil => cases hi
  | inclusion hbase hload huri hnodes _ ihNodes ihRest =>
      rcases List.mem_cons.mp hi with rfl | hi
      · exact ⟨⟨_, _, rfl⟩, huri, _, hload, rfl, hnodes⟩
      · rcases List.mem_append.mp hi with hi | hi
        · exact ihNodes hi
        · exact ihRest hi
  | «variable» _ ih => exact ih hi
  | request _ ih => exact ih hi

/-- No include below some documents leads back to one of them, and what it includes would also fit
below it alone. -/
theorem Nodes.Fits.of_mem_allInclusions {nodes : Nodes} {i : IncludePath × DocumentTree}
    {above : List FilePath} {remaining : Nat} (h : nodes.Fits above remaining)
    (hi : i ∈ nodes.allInclusions) :
    (∀ p ∈ above, p.same i.1.absolute = false) ∧
      i.2.nodes.Fits [i.1.absolute] remaining := by
  induction nodes generalizing above remaining with
  | nil => cases hi
  | inclusion range path uri document rest ihDocument ihRest =>
      obtain ⟨hfresh, hpos, hdocument, hrest⟩ := h
      rcases List.mem_cons.mp hi with rfl | hi
      · refine ⟨hfresh, hdocument.mono ?_ (Nat.sub_le _ _)⟩
        intro p hp
        exact ⟨p, List.mem_append_right _ hp, rfl⟩
      · rcases List.mem_append.mp hi with hi | hi
        · obtain ⟨hbelow, hfits⟩ := ihDocument hdocument hi
          refine ⟨fun p hp => hbelow p (List.mem_append_left _ hp), ?_⟩
          exact hfits.mono (fun p hp => ⟨p, hp, rfl⟩) (Nat.sub_le _ _)
        · exact ihRest hrest hi
  | «variable» v rest ih => exact ih h hi
  | request node rest ih => exact ih h hi

/-- A document inside a tree is what its own expansion gives. -/
theorem expand_of_mem_allInclusions {tree : DocumentTree} {i : IncludePath × DocumentTree}
    (h : expand load maxDepth document = .ok tree) (hi : i ∈ tree.nodes.allInclusions) :
    ∃ text, load i.1.absolute = .ok text ∧
      expand load maxDepth ⟨i.2.uri, text⟩ = .ok i.2 := by
  obtain ⟨htree, hfits⟩ := expand_eq_ok_iff.mp h
  have hinclusion := htree.nodes.isInclusion hi
  obtain ⟨text, hload, hdocument⟩ := hinclusion.tree
  obtain ⟨q, hq, hplace⟩ := filePath?_of_ofFilePath? text hinclusion.uri
  have hbelow : i.2.nodes.Fits ([] ++ [i.1.absolute]) maxDepth := (hfits.of_mem_allInclusions hi).2
  refine ⟨text, hload, expand_eq_ok_iff.mpr ⟨hdocument, ?_⟩⟩
  rw [hq]
  exact hbelow.congr_last hplace.symm

theorem exists_expand_of_mem_documents {tree t : DocumentTree}
    (h : expand load maxDepth document = .ok tree) (ht : t ∈ tree.documents) :
    ∃ document', expand load maxDepth document' = .ok t := by
  rcases DocumentTree.mem_documents_iff.mp ht with rfl | ⟨i, hi, rfl⟩
  · exact ⟨document, h⟩
  · obtain ⟨text, -, hexpand⟩ := expand_of_mem_allInclusions h hi
    exact ⟨_, hexpand⟩

/-! ### Nothing is found below itself -/

/-- Only a file has includes. -/
theorem Unfolds.filePath?_isSome {directives : List Directive} {nodes : Nodes}
    (h : Unfolds load document directives nodes) (hne : nodes.allInclusions ≠ []) :
    ∃ base, document.filePath? = some base := by
  induction h with
  | nil => exact absurd rfl hne
  | inclusion hbase => exact ⟨_, hbase⟩
  | «variable» _ ih => exact ih hne
  | request _ ih => exact ih hne

/-- No document includes itself, by whatever name: one URL would mean one file. -/
theorem includesDocument_self {tree : DocumentTree}
    (h : expand load maxDepth document = .ok tree) : tree.includesDocument tree.uri = false := by
  cases hinc : tree.includesDocument tree.uri with
  | false => rfl
  | true =>
      exfalso
      -- An include with the URL of the document leads to the file of the document, which stands
      -- above the include.
      obtain ⟨i, hi, huri⟩ := Nodes.includes_eq_true_iff.mp hinc
      obtain ⟨htree, hfits⟩ := expand_eq_ok_iff.mp h
      obtain ⟨base, hbase⟩ := htree.nodes.filePath?_isSome (List.ne_nil_of_mem hi)
      have hfresh := (hfits.of_mem_allInclusions hi).1 base (by simp [hbase])
      obtain ⟨q, hq, hplace⟩ := Url.toFilePath?_ofFilePath? (htree.nodes.isInclusion hi).uri
      rw [huri, htree.uri] at hq
      obtain rfl : base = q := Option.some.inj (hbase.symm.trans hq)
      exact FilePath.same_eq_false_iff.mp hfresh hplace

theorem uri_ne_of_mem_allInclusions {tree : DocumentTree} {i : IncludePath × DocumentTree}
    (h : expand load maxDepth document = .ok tree) (hi : i ∈ tree.nodes.allInclusions) :
    i.2.uri ≠ tree.uri := by
  intro huri
  have hinc : tree.includesDocument tree.uri = true :=
    Nodes.includes_eq_true_iff.mpr ⟨i, hi, huri⟩
  rw [includesDocument_self h] at hinc
  cases hinc

/-- A way down stays inside the tree. -/
theorem DocumentTree.Descent.mem_documents {t u : DocumentTree} {chain : List DocumentTree}
    (h : t.Descent chain) (hu : u ∈ chain) : u ∈ t.documents := by
  induction h with
  | stop t => exact mem_documents_iff.mpr (.inl (List.mem_singleton.mp hu))
  | into hmem _ ih =>
      refine mem_documents_iff.mpr ?_
      rcases List.mem_cons.mp hu with rfl | hu
      · exact .inl rfl
      · exact .inr (Nodes.exists_mem_allInclusions (Nodes.inclusions_subset hmem) (ih hu))

theorem nodup_uris_of_descent {tree : DocumentTree} {chain : List DocumentTree}
    (h : expand load maxDepth document = .ok tree) (hchain : tree.Descent chain) :
    (chain.map (·.uri)).Nodup := by
  induction hchain generalizing document with
  | stop t => simp
  | @into t child path below hmem hbelow ih =>
      have hchild := Nodes.inclusions_subset hmem
      obtain ⟨text, -, hexpand⟩ := expand_of_mem_allInclusions h hchild
      rw [List.map_cons, List.nodup_cons]
      refine ⟨?_, ih hexpand⟩
      intro huri
      obtain ⟨u, hu, huri⟩ := List.mem_map.mp huri
      obtain ⟨i, hi, rfl⟩ := Nodes.exists_mem_allInclusions hchild (hbelow.mem_documents hu)
      exact uri_ne_of_mem_allInclusions h hi huri

/-- Each step down takes one level of the room that is left. -/
theorem Nodes.Fits.of_mem_inclusions {nodes : Nodes} {path : IncludePath} {child : DocumentTree}
    {above : List FilePath} {remaining : Nat} (h : nodes.Fits above remaining)
    (hmem : (path, child) ∈ nodes.inclusions) :
    0 < remaining ∧ child.nodes.Fits (above ++ [path.absolute]) (remaining - 1) := by
  induction nodes with
  | nil => cases hmem
  | inclusion range path' uri document rest _ ihRest =>
      obtain ⟨-, hpos, hdocument, hrest⟩ := h
      rcases List.mem_cons.mp hmem with heq | hmem
      · cases heq
        exact ⟨hpos, hdocument⟩
      · exact ihRest hrest hmem
  | «variable» v rest ih => exact ih h hmem
  | request node rest ih => exact ih h hmem

theorem length_le_of_descent {tree : DocumentTree} {chain : List DocumentTree}
    {above : List FilePath} {remaining : Nat} (hchain : tree.Descent chain)
    (h : tree.nodes.Fits above remaining) : chain.length ≤ remaining + 1 := by
  induction hchain generalizing above remaining with
  | stop t => simp
  | into hmem _ ih =>
      obtain ⟨hpos, hchild⟩ := h.of_mem_inclusions hmem
      have hlength := ih hchild
      rw [List.length_cons]
      omega

/-! ### One document, one tree -/

theorem eq_of_mem_allInclusions {nodes : Nodes} {directives : List Directive}
    {i j : IncludePath × DocumentTree} (h : Unfolds load document directives nodes)
    (hi : i ∈ nodes.allInclusions) (hj : j ∈ nodes.allInclusions) (huri : i.2.uri = j.2.uri) :
    i.2 = j.2 := by
  have hincI := h.isInclusion hi
  have hincJ := h.isInclusion hj
  obtain ⟨base, target, hresolvedI⟩ := hincI.resolved
  obtain ⟨base', target', hresolvedJ⟩ := hincJ.resolved
  -- One URL is one place, and resolved paths have one spelling for each place: the same text is
  -- loaded for both.
  have hplace : i.1.absolute.place = j.1.absolute.place :=
    Url.place_eq_of_ofFilePath? hincI.uri (huri ▸ hincJ.uri)
  have hpath : i.1.absolute = j.1.absolute := by
    rw [hresolvedI, hresolvedJ] at hplace ⊢
    exact FilePath.resolve_eq_of_place_eq hplace
  obtain ⟨text, hload, htree⟩ := hincI.tree
  obtain ⟨text', hload', htree'⟩ := hincJ.tree
  rw [hpath, hload'] at hload
  obtain rfl := Except.ok.inj hload
  rw [huri] at htree
  exact htree.unique htree'

theorem eq_of_mem_documents {tree t u : DocumentTree}
    (h : expand load maxDepth document = .ok tree) (ht : t ∈ tree.documents)
    (hu : u ∈ tree.documents) (huri : t.uri = u.uri) : t = u := by
  have hnodes := (expand_eq_ok_iff.mp h).1.nodes
  rcases DocumentTree.mem_documents_iff.mp ht with rfl | ⟨i, hi, rfl⟩
  · rcases DocumentTree.mem_documents_iff.mp hu with rfl | ⟨j, hj, rfl⟩
    · rfl
    · exact absurd huri.symm (uri_ne_of_mem_allInclusions h hj)
  · rcases DocumentTree.mem_documents_iff.mp hu with rfl | ⟨j, hj, rfl⟩
    · exact absurd huri (uri_ne_of_mem_allInclusions h hi)
    · exact eq_of_mem_allInclusions hnodes hi hj huri

/-! ### A document that is included twice -/

/-- The URL of a file in one directory. -/
def workUrl (name : String) : Url :=
  ⟨"file", some ⟨"", "", none⟩, .segments ["work", name], none, none⟩

/-- The node of an include whose path is a file name in that directory. -/
def workInclusion (line : Nat) (name : String) (document rest : Nodes) : Nodes :=
  .inclusion (.wholeLine line ("@@include ".toList ++ name.toList))
    ⟨.span line "@@include ".toList name.toList, name, .ofString ("/work/" ++ name)⟩
    (workUrl name) document rest

/-- Two files that include a third one. -/
def diamond : MemoryFiles :=
  .ofList [
    (.ofString "/work/b.http", "@@include d.http\n"),
    (.ofString "/work/c.http", "@@include d.http\n"),
    (.ofString "/work/d.http", "@d = 1\n")]

def diamondRoot : TextDocument :=
  ⟨workUrl "a.http", "@@include b.http\n@@include c.http\n"⟩

def diamondTree : DocumentTree :=
  let leaf : Nodes := .variable ⟨.wholeLine 0 "@d = 1".toList, "d", "1"⟩ .nil
  ⟨workUrl "a.http",
    workInclusion 0 "b.http" (workInclusion 0 "d.http" leaf .nil)
      (workInclusion 1 "c.http" (workInclusion 0 "d.http" leaf .nil) .nil)⟩

theorem expand_diamond : expand diamond.load 2 diamondRoot = .ok diamondTree := by
  decide +kernel

/-! ### What holds of every expanded tree -/

/-- On every way down the documents are distinct and the includes no more than the limit allows, no
document includes itself, and a document is the same tree wherever it stands. -/
theorem expand_tree_invariants (files : MemoryFiles) (maxDepth : Nat) (document : TextDocument)
    (tree : DocumentTree) (h : expand files.load maxDepth document = .ok tree) :
    (∀ chain, tree.Descent chain →
      (chain.map (·.uri)).Nodup ∧ chain.length ≤ maxDepth + 1) ∧
    (∀ t ∈ tree.documents, t.includesDocument t.uri = false) ∧
    (∀ t ∈ tree.documents, ∀ u ∈ tree.documents, t.uri = u.uri → t = u) := by
  refine ⟨?_, ?_, ?_⟩
  · intro chain hchain
    exact ⟨nodup_uris_of_descent h hchain, length_le_of_descent hchain (expand_eq_ok_iff.mp h).2⟩
  · intro t ht
    obtain ⟨document', hexpand⟩ := exists_expand_of_mem_documents h ht
    exact includesDocument_self hexpand
  · intro t ht u hu huri
    exact eq_of_mem_documents h ht hu huri

theorem expand_tree_invariants_diamond :
    expand diamond.load 2 diamondRoot = .ok diamondTree ∧
    (∀ chain, diamondTree.Descent chain →
      (chain.map (·.uri)).Nodup ∧ chain.length ≤ 2 + 1) ∧
    (∀ t ∈ diamondTree.documents, t.includesDocument t.uri = false) ∧
    (∀ t ∈ diamondTree.documents, ∀ u ∈ diamondTree.documents, t.uri = u.uri → t = u) :=
  ⟨expand_diamond, expand_tree_invariants diamond 2 diamondRoot diamondTree expand_diamond⟩

/-- Each included document is the tree that it has on its own, and a greater limit changes nothing.
-/
theorem expand_context_independent (files : MemoryFiles) (maxDepth : Nat)
    (document : TextDocument) (tree : DocumentTree)
    (h : expand files.load maxDepth document = .ok tree) :
    (∀ path child, (path, child) ∈ tree.nodes.allInclusions →
      ∃ text, files.get? path.absolute = some text ∧
        expand files.load maxDepth ⟨child.uri, text⟩ = .ok child) ∧
    (∀ limit, maxDepth ≤ limit → expand files.load limit document = .ok tree) := by
  constructor
  · intro path child hmem
    obtain ⟨text, hload, hexpand⟩ := expand_of_mem_allInclusions h hmem
    exact ⟨text, MemoryFiles.load_eq_ok_iff.mp hload, hexpand⟩
  · intro limit hle
    rw [expand_mono hle (h ▸ settled_ok tree), h]

theorem expand_context_independent_diamond :
    expand diamond.load 2 diamondRoot = .ok diamondTree ∧
    (∀ path child, (path, child) ∈ diamondTree.nodes.allInclusions →
      ∃ text, diamond.get? path.absolute = some text ∧
        expand diamond.load 2 ⟨child.uri, text⟩ = .ok child) ∧
    (∀ limit, 2 ≤ limit → expand diamond.load limit diamondRoot = .ok diamondTree) :=
  ⟨expand_diamond, expand_context_independent diamond 2 diamondRoot diamondTree expand_diamond⟩

end HttpScript.Script
