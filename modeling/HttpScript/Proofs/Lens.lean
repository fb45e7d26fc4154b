/-
Module: HttpScript.Proofs.Lens
Purpose: Which requests the lenses of a document are for.  They follow the request blocks of its own
  text, whatever it includes, and each of them names the line that is read as the request line.
Main exports: requestBlocks, pairwise_requestBlocks, lenses_eq, Lens.PointsAt, lenses_of_expand
-/
import HttpScript.Lens
import HttpScript.Proofs.Script.BlockRequest
import Mathlib.Data.List.Forall2

namespace HttpScript

open Script Text

variable {load : Loader} {document : TextDocument} {tree : DocumentTree} {node : RequestNode}

/-! ### The request blocks of a text -/

namespace Script

/-- The request blocks of a text, in its order. -/
def requestBlocks (text : String) : List RequestBlock :=
  (scan text).filterMap Directive.request?

theorem mem_requestBlocks_iff {text : String} {b : RequestBlock} :
    b ∈ requestBlocks text ↔ .request b ∈ scan text := by
  simp [requestBlocks, request?_eq_some_iff]

theorem start_le_stop_of_mem {text : String} {b : RequestBlock} (h : b ∈ requestBlocks text) :
    b.range.start.line ≤ b.range.stop.line :=
  ((scan_placed text).1 _ (mem_requestBlocks_iff.mp h)).start_le_stop

/-- A block ends before the next one begins. -/
theorem pairwise_requestBlocks (text : String) : (requestBlocks text).Pairwise
    (fun b c => b.range.stop.line < c.range.start.line) := by
  rw [requestBlocks, List.pairwise_filterMap]
  refine (scan_placed text).2.imp ?_
  intro d e hlt b hb c hc
  obtain rfl := request?_eq_some_iff.mp hb
  obtain rfl := request?_eq_some_iff.mp hc
  exact hlt

theorem IsTreeOf.map_block_requests (h : IsTreeOf load document tree) :
    tree.requests.map (·.block) = requestBlocks document.text :=
  h.nodes.map_block_requests

end Script

/-! ### Lenses -/

/-- The lenses of a tree are those of the document's own request blocks. -/
theorem lenses_eq (h : IsTreeOf load document tree) :
    lenses tree = (requestBlocks document.text).map (Lens.ofRequest document.uri) := by
  rw [lenses, h.uri, ← h.map_block_requests, List.map_map]
  rfl

/-- A lens is for a request of a document: it spans the request's lines, and names the line of the
document that is read as the request line.  The text of the request begins with that line, of which
a carriage return at its end may be lost. -/
structure Lens.PointsAt (document : TextDocument) (l : Lens) (node : RequestNode) : Prop where
  range_eq : l.range = node.block.range
  uri_eq : l.uri = document.uri
  exists_line : ∃ line rest first, (lines document.text.toList)[l.line]? = some line ∧
    node.block.text = String.ofList (joinLines (line :: rest)) ∧
    (first = line ∨ first = dropCarriageReturn line) ∧
    requestLineOf? (numberedLines 1 node.block.text.toList) = some (1, first) ∧
    node.ReadsLine line

theorem pointsAt_ofRequest (h : node.block ∈ requestBlocks document.text) :
    Lens.PointsAt document (.ofRequest document.uri node.block) node := by
  have hmem := mem_requestBlocks_iff.mp h
  obtain ⟨line, rest, hline, hcontent, hlines, htext⟩ := exists_lines_of_mem_scan hmem
  obtain ⟨line', hline', hreads⟩ := exists_readsLine hmem
  obtain rfl : line = line' := Option.some.inj (hline.symm.trans hline')
  have hfeeds : ∀ l ∈ line :: rest, '\n' ∉ l := fun l hl => notMem_of_mem_lines (hlines l hl)
  obtain ⟨first, hfirst, hrequestLine⟩ := exists_requestLineOf?_joinLines hcontent hfeeds
  refine { range_eq := rfl, uri_eq := rfl, exists_line := ?_ }
  refine ⟨line, rest, first, hline, htext, hfirst, ?_, hreads⟩
  rw [htext, String.toList_ofList]
  exact hrequestLine

/-- A later lens names a later line. -/
theorem pairwise_line_lenses (h : IsTreeOf load document tree) :
    (lenses tree).Pairwise (·.line < ·.line) := by
  rw [lenses_eq h, List.pairwise_map]
  refine (pairwise_requestBlocks document.text).imp_of_mem ?_
  intro b c hb _ hlt
  exact Nat.lt_of_le_of_lt (start_le_stop_of_mem hb) hlt

/-- The lenses of an expanded document are one for each request block of its text, in the order of
the text, and point at the requests of the tree one by one; nothing that is included has any.  Their
lines grow, so that no two of them have the same arguments, and a document that is included has
another URL. -/
theorem lenses_of_expand (load : Loader) (maxDepth : Nat) (document : TextDocument)
    (tree : DocumentTree) (h : expand load maxDepth document = .ok tree) :
    lenses tree = (requestBlocks document.text).map (Lens.ofRequest document.uri) ∧
    List.Forall₂ (Lens.PointsAt document) (lenses tree) tree.requests ∧
    (lenses tree).Pairwise (·.line < ·.line) ∧
    ((lenses tree).map (fun l => (l.uri, l.line))).Nodup ∧
    ∀ l ∈ lenses tree, ∀ i ∈ tree.nodes.allInclusions, l.uri ≠ i.2.uri := by
  obtain ⟨htree, -⟩ := expand_eq_ok_iff.mp h
  have hordered := pairwise_line_lenses htree
  have hpoints : List.Forall₂ (Lens.PointsAt document) (lenses tree) tree.requests := by
    rw [lenses, List.forall₂_map_left_iff, List.forall₂_same, htree.uri]
    intro node hnode
    apply pointsAt_ofRequest
    rw [← htree.map_block_requests]
    exact List.mem_map_of_mem hnode
  refine ⟨lenses_eq htree, hpoints, hordered, ?_, ?_⟩
  · rw [List.Nodup, List.pairwise_map]
    refine hordered.imp ?_
    intro l l' hlt heq
    exact Nat.ne_of_lt hlt (congrArg Prod.snd heq)
  · intro l hl i hi huri
    obtain ⟨node, -, rfl⟩ := List.mem_map.mp hl
    exact uri_ne_of_mem_allInclusions h hi huri.symm

/-- Two requests behind comments, and an include that holds one more. -/
def commentedRoot : TextDocument :=
  ⟨workUrl "a.http",
    "@@include d.http\n# one\nGET https://a.example\n###\n\n// two\nPUT https://b.example\nA: 1\n"⟩

def commentedTree : DocumentTree :=
  ⟨workUrl "a.http",
    workInclusion 0 "d.http" (.request returningNode .nil)
      (.request ⟨⟨⟨⟨2, 0⟩, ⟨2, 21⟩⟩, "GET https://a.example", none⟩, .ofString "/work/a.http"⟩
        (.request
          ⟨⟨⟨⟨6, 0⟩, ⟨7, 4⟩⟩, "PUT https://b.example\nA: 1", none⟩, .ofString "/work/a.http"⟩
          .nil))⟩

/-- The lenses name the request lines, not the comments, and the included request has none. -/
theorem lenses_of_expand_commented :
    expand returning.load 1 commentedRoot = .ok commentedTree ∧
    commentedTree.nodes.allRequests.length = 3 ∧
    (lenses commentedTree).map (·.line) = [2, 6] ∧
    ((lenses commentedTree).map (fun l => (l.uri, l.line))).Nodup := by
  have hexpand : expand returning.load 1 commentedRoot = .ok commentedTree := by decide +kernel
  obtain ⟨-, -, -, hnodup, -⟩ := lenses_of_expand returning.load 1 commentedRoot _ hexpand
  exact ⟨hexpand, rfl, rfl, hnodup⟩

end HttpScript
