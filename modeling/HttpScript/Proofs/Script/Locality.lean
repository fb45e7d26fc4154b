/-
Module: HttpScript.Proofs.Script.Locality
Purpose: Which texts a tree is made of.  An expansion that succeeds has read nothing but the texts
  at the paths of its includes, each of which stands in the tree.  So a loader that holds the same
  texts at these paths gives the same tree, and a document that the tree does not include cannot
  change it, whatever its text becomes.
Main exports: expand_congr_load, expand_congr_of_not_includes, expand_local
-/
import HttpScript.Proofs.Script.IncludedDocument

namespace HttpScript.Script

variable {load load' : Loader} {document : TextDocument} {maxDepth : Nat} {tree : DocumentTree}

/-! ### What is read -/

/-- Directives unfold in the same way wherever the included texts are the same. -/
theorem Unfolds.congr_load {directives : List Directive} {nodes : Nodes}
    (h : Unfolds load document directives nodes)
    (hagree : ∀ i ∈ nodes.allInclusions, load' i.1.absolute = load i.1.absolute) :
    Unfolds load' document directives nodes := by
  induction h with
  | nil => exact .nil
  | @inclusion document base d text uri document' rest directives hbase hload huri _ _ ihNodes
      ihRest =>
      have hhere : load' (base.resolve d.path) = load (base.resolve d.path) :=
        hagree _ List.mem_cons_self
      refine .inclusion hbase (hhere.trans hload) huri (ihNodes ?_) (ihRest ?_)
      · intro i hi
        exact hagree i (List.mem_cons_of_mem _ (List.mem_append_left _ hi))
      · intro i hi
        exact hagree i (List.mem_cons_of_mem _ (List.mem_append_right _ hi))
  | «variable» _ ih => exact .variable (ih hagree)
  | request _ ih => exact .request (ih hagree)

theorem expand_congr_load (h : expand load maxDepth document = .ok tree)
    (hagree : ∀ i ∈ tree.nodes.allInclusions, load' i.1.absolute = load i.1.absolute) :
    expand load' maxDepth document = .ok tree := by
  obtain ⟨htree, hfits⟩ := expand_eq_ok_iff.mp h
  have htree' : IsTreeOf load' document tree := ⟨htree.uri, htree.nodes.congr_load hagree⟩
  exact expand_eq_ok_iff.mpr ⟨htree', hfits⟩

/-- A document that is not included is not read. -/
theorem expand_congr_of_not_includes {uri : Url} (h : expand load maxDepth document = .ok tree)
    (hnot : tree.includesDocument uri = false)
    (hagree : ∀ path, Url.ofFilePath? path ≠ some uri → load' path = load path) :
    expand load' maxDepth document = .ok tree := by
  refine expand_congr_load h ?_
  intro i hi
  refine hagree _ ?_
  intro huri
  -- The include whose path has the URL stands in the tree with this URL.
  have hinclusion := (expand_eq_ok_iff.mp h).1.nodes.isInclusion hi
  have hsame : i.2.uri = uri := Option.some.inj (hinclusion.uri.symm.trans huri)
  have hinc : tree.includesDocument uri = true := Nodes.includes_eq_true_iff.mpr ⟨i, hi, hsame⟩
  rw [hnot] at hinc
  cases hinc

/-! ### Texts in memory -/

/-- A text is found under every spelling of its path, and hides no other. -/
theorem MemoryFiles.get?_insert (files : MemoryFiles) (path p : FilePath) (text : String) :
    (files.insert path text).get? p = if path.same p = true then some text else files.get? p := by
  cases hsame : path.same p with
  | true => simp [MemoryFiles.get?, MemoryFiles.insert, hsame]
  | false =>
      -- What makes room for the text has the place of its path, which is not that of `p`.
      have hkeep : ∀ f : FilePath × String,
          (!f.1.same path && f.1.same p) = f.1.same p := by
        intro f
        cases hf : f.1.same p with
        | false => simp
        | true =>
            have hplace := FilePath.same_iff.mp hf
            have hne := FilePath.same_eq_false_iff.mp hsame
            have hother : f.1.same path = false :=
              FilePath.same_eq_false_iff.mpr (hplace ▸ Ne.symm hne)
            simp [hother]
      simp [MemoryFiles.get?, MemoryFiles.insert, hsame, List.find?_filter, hkeep]

/-- Paths with different URLs are different places. -/
theorem MemoryFiles.load_insert_of_ne {files : MemoryFiles} {path p : FilePath} {text : String}
    {uri : Url} (huri : Url.ofFilePath? path = some uri) (hne : Url.ofFilePath? p ≠ some uri) :
    (files.insert path text).load p = files.load p := by
  have hsame : path.same p = false := by
    rw [FilePath.same_eq_false_iff]
    intro hplace
    exact hne (Url.ofFilePath?_congr hplace ▸ huri)
  simp only [MemoryFiles.load, MemoryFiles.get?_insert, hsame, Bool.false_eq_true, if_false]

/-! ### What a tree depends on -/

/-- A tree depends on the texts at the paths of its includes alone.  In particular the text of a
document that it does not include does not matter. -/
theorem expand_local (files : MemoryFiles) (maxDepth : Nat) (document : TextDocument)
    (tree : DocumentTree) (h : expand files.load maxDepth document = .ok tree) :
    (∀ files' : MemoryFiles,
      (∀ path child, (path, child) ∈ tree.nodes.allInclusions →
        files'.get? path.absolute = files.get? path.absolute) →
      expand files'.load maxDepth document = .ok tree) ∧
    (∀ path text uri, Url.ofFilePath? path = some uri → tree.includesDocument uri = false →
      expand (files.insert path text).load maxDepth document = .ok tree) := by
  constructor
  · intro files' hsame
    refine expand_congr_load h ?_
    rintro ⟨path, child⟩ hi
    simp only [MemoryFiles.load, hsame path child hi]
  · intro path text uri huri hnot
    refine expand_congr_of_not_includes h hnot ?_
    intro p hp
    exact MemoryFiles.load_insert_of_ne huri hp

/-- The files of the diamond in another order and spelling, and one more that includes the root. -/
def diamondElsewhere : MemoryFiles :=
  .ofList [
    (.ofString "/work//d.http", "@d = 1\n"),
    (.ofString "/work/./c.http", "@@include d.http\n"),
    (.ofString "/work/e.http", "@@include a.http\n"),
    (.ofString "/work/b.http", "@@include d.http\n")]

theorem expand_local_diamond :
    expand diamond.load 2 diamondRoot = .ok diamondTree ∧
    (∀ path child, (path, child) ∈ diamondTree.nodes.allInclusions →
      diamondElsewhere.get? path.absolute = diamond.get? path.absolute) ∧
    expand diamondElsewhere.load 2 diamondRoot = .ok diamondTree ∧
    Url.ofFilePath? (.ofString "/work/e.http") = some (workUrl "e.http") ∧
    diamondTree.includesDocument (workUrl "e.http") = false ∧
    expand (diamond.insert (.ofString "/work/e.http") "@@include a.http\n").load 2 diamondRoot
      = .ok diamondTree := by
  have hsame : ∀ path child, (path, child) ∈ diamondTree.nodes.allInclusions →
      diamondElsewhere.get? path.absolute = diamond.get? path.absolute := by
    have hall : ∀ i ∈ diamondTree.nodes.allInclusions,
        diamondElsewhere.get? i.1.absolute = diamond.get? i.1.absolute := by
      decide
    exact fun path child hi => hall (path, child) hi
  have huri : Url.ofFilePath? (.ofString "/work/e.http") = some (workUrl "e.http") := by
    decide
  have hnot : diamondTree.includesDocument (workUrl "e.http") = false := by
    decide
  have hlocal := expand_local diamond 2 diamondRoot diamondTree expand_diamond
  exact ⟨expand_diamond, hsame, hlocal.1 _ hsame, huri, hnot, hlocal.2 _ _ _ huri hnot⟩

end HttpScript.Script
