/-
Module: HttpScript.Proofs.Script.BlockRequest
Purpose: Requests of a tree and the documents they stand in.  The text of a block is read as a
  request whose first line is the one at which the block begins in its document: what one takes for
  a line with content the other does too, so the request line is judged as it stands there, and its
  absence is never what is wrong.
Main exports: DocumentTree.Owns, exists_owns_iff, requestOfText_joinLines, exists_lines_of_mem_scan,
  RequestNode.ReadsLine, expand_requests_readLine
-/
import HttpScript.Proofs.Script.IncludedDocument
import HttpScript.Proofs.Script.RequestParts
import HttpScript.Proofs.Text.LineEnd

namespace HttpScript.Script

open Http Text

variable {load : Loader} {document owner : TextDocument} {tree : DocumentTree} {node : RequestNode}

/-! ### Documents and their requests -/

/-- A request stands in the document that was expanded, or in one that was loaded for an include. -/
inductive DocumentTree.Owns (load : Loader) (document : TextDocument) (t : DocumentTree) :
    TextDocument → RequestNode → Prop where
  | root {node : RequestNode} (hmem : node ∈ t.requests) : Owns load document t document node
  | included {path : IncludePath} {child : DocumentTree} {text : String} {node : RequestNode}
      (hinclusion : (path, child) ∈ t.nodes.allInclusions) (hload : load path.absolute = .ok text)
      (hmem : node ∈ child.requests) : Owns load document t ⟨child.uri, text⟩ node

theorem Nodes.mem_allRequests_iff {nodes : Nodes} :
    node ∈ nodes.allRequests ↔
      node ∈ nodes.requests ∨ ∃ i ∈ nodes.allInclusions, node ∈ i.2.requests := by
  induction nodes with
  | nil => simp [Nodes.allRequests, Nodes.requests, Nodes.allInclusions]
  | inclusion range path uri document rest ihDocument ihRest =>
      simp only [Nodes.allRequests, Nodes.requests, Nodes.allInclusions, List.mem_append,
        List.mem_cons, or_and_right, exists_or, exists_eq_left, ihDocument, ihRest,
        DocumentTree.requests, or_assoc, or_left_comm]
  | «variable» v rest ih => exact ih
  | request head rest ih =>
      rw [Nodes.allRequests, Nodes.requests, List.mem_cons, List.mem_cons, ih, or_assoc]
      rfl

/-- The requests of a tree are those of its documents. -/
theorem exists_owns_iff (htree : IsTreeOf load document tree) :
    (∃ owner, tree.Owns load document owner node) ↔ node ∈ tree.nodes.allRequests := by
  rw [Nodes.mem_allRequests_iff]
  constructor
  · rintro ⟨owner, howns⟩
    cases howns with
    | root hmem => exact .inl hmem
    | included hinclusion _ hmem => exact .inr ⟨_, hinclusion, hmem⟩
  · rintro (hmem | ⟨⟨path, child⟩, hinclusion, hmem⟩)
    · exact ⟨_, .root hmem⟩
    · obtain ⟨text, hload, -⟩ := (htree.nodes.isInclusion hinclusion).tree
      exact ⟨_, .included hinclusion hload hmem⟩

theorem Unfolds.request_mem {directives : List Directive} {nodes : Nodes}
    (h : Unfolds load document directives nodes) (hmem : node ∈ nodes.requests) :
    .request node.block ∈ directives := by
  have hblock := List.mem_map_of_mem (f := RequestNode.block) hmem
  rw [h.map_block_requests] at hblock
  obtain ⟨d, hd, hrequest⟩ := List.mem_filterMap.mp hblock
  obtain rfl := request?_eq_some_iff.mp hrequest
  exact hd

/-- A request is a directive of the document it stands in. -/
theorem DocumentTree.Owns.request_mem_scan (htree : IsTreeOf load document tree)
    (h : tree.Owns load document owner node) : .request node.block ∈ scan owner.text := by
  cases h with
  | root hmem => exact htree.nodes.request_mem hmem
  | included hinclusion hload hmem =>
      obtain ⟨text, hload', hchild⟩ := (htree.nodes.isInclusion hinclusion).tree
      obtain rfl := Except.ok.inj (hload'.symm.trans hload)
      exact hchild.nodes.request_mem hmem

/-! ### The text of a block -/

/-- The text of a block are lines of its document, and the first of them is the one at which the
block begins. -/
theorem exists_lines_of_mem_scan {text : String} {b : RequestBlock}
    (h : .request b ∈ scan text) : ∃ first rest,
      (lines text.toList)[b.range.start.line]? = some first ∧ hasContent first = true ∧
      (∀ line ∈ first :: rest, line ∈ lines text.toList) ∧
      b.text = String.ofList (joinLines (first :: rest)) := by
  cases readFrom_of_mem (increasing_numberedLines 0 text.toList) h with
  | own _ hreads =>
      rcases ownDirective?_cases hreads with ⟨i, -, heq⟩ | ⟨-, v, -, heq⟩
      · cases heq
      · cases heq
  | request hspans =>
      have hplaced := hspans.placedIn
      obtain ⟨⟨first, hfirst, hcontent⟩, -, -, htext⟩ := hplaced.of_request b rfl
      have hle : b.range.start.line ≤ b.range.stop.line := hplaced.start_le_stop
      obtain ⟨hlt, rfl⟩ := List.getElem?_eq_some_iff.mp hfirst
      have hextract : (lines text.toList).extract b.range.start.line (b.range.stop.line + 1) =
          (lines text.toList)[b.range.start.line] ::
            (lines text.toList).extract (b.range.start.line + 1) (b.range.stop.line + 1) := by
        rw [List.extract_eq_take_drop, List.extract_eq_take_drop, List.drop_eq_getElem_cons hlt,
          Nat.sub_add_comm hle, List.take_succ_cons, Nat.add_sub_add_right]
      rw [hextract, List.filter_cons_of_pos (by simp [isComment_eq_false_of_hasContent hcontent])]
        at htext
      refine ⟨_, _, hfirst, hcontent, ?_, htext⟩
      intro line hline
      rcases List.mem_cons.mp hline with rfl | hline
      · exact List.getElem_mem hlt
      · exact List.mem_of_mem_drop (List.mem_of_mem_take (List.mem_of_mem_filter hline))

theorem isComment_append {line : List Char} (h : isComment line = true) (more : List Char) :
    isComment (line ++ more) = true := by
  have hne : trimLeft line ≠ [] := by
    intro hnil
    simp [isComment, hnil] at h
  have hsplit : trimLeft (line ++ more) = trimLeft line ++ more := by
    rw [trimLeft, List.dropWhile_append, if_neg (by simpa [trimLeft] using hne)]
    rfl
  unfold isComment at h ⊢
  rw [hsplit]
  split at h
  next rest hmark => rw [hmark]; rfl
  next rest hmark => rw [hmark]; rfl
  next => cases h

/-- It is not a carriage return at its end that gives a line content. -/
theorem hasContent_dropCarriageReturn {line : List Char} (h : hasContent line = true) :
    hasContent (dropCarriageReturn line) = true := by
  rcases dropCarriageReturn_eq line with heq | heq
  · rwa [← heq]
  · have hblank : isBlankLine (dropCarriageReturn line) = false := by
      have hline := isBlankLine_eq_false_of_hasContent h
      rw [heq, isBlankLine, List.all_append, Bool.and_eq_false_iff] at hline
      rcases hline with hline | hline
      · exact hline
      · exact absurd hline (by decide)
    have hcomment : isComment (dropCarriageReturn line) = false := by
      apply Bool.eq_false_iff.mpr
      intro hmark
      have hline := isComment_append hmark ['\r']
      rw [← heq, isComment_eq_false_of_hasContent h] at hline
      cases hline
    rw [hasContent, hblank, hcomment]
    rfl

/-- Of joined lines the first one is the request line if it has content. -/
theorem exists_requestLineOf?_joinLines {first : List Char} {rest : List (List Char)}
    (hcontent : hasContent first = true) (hlines : ∀ line ∈ first :: rest, '\n' ∉ line) :
    ∃ first', (first' = first ∨ first' = dropCarriageReturn first) ∧
      requestLineOf? (numberedLines 1 (joinLines (first :: rest))) = some (1, first') := by
  obtain ⟨first', rest', hpieces, hfirst⟩ :=
    exists_linesOfPieces_cons (ne_nil_of_hasContent hcontent) rest
  have hcontent' : hasContent first' = true := by
    rcases hfirst with rfl | rfl
    · exact hcontent
    · exact hasContent_dropCarriageReturn hcontent
  refine ⟨first', hfirst, ?_⟩
  rw [numberedLines_eq, lines_joinLines (List.cons_ne_nil first rest) hlines, hpieces,
    numbered_cons]
  exact requestLineOf?_cons hcontent'

/-- Lines that begin with one that has content are read with that one as the request line. -/
theorem requestOfText_joinLines {first : List Char} {rest : List (List Char)}
    (hcontent : hasContent first = true) (hlines : ∀ line ∈ first :: rest, '\n' ∉ line)
    (filePath : FilePath) :
    ∃ first' headers body, requestLine first' 1 = requestLine first 1 ∧
      requestOfText (String.ofList (joinLines (first :: rest))) filePath =
        requestOfParts (1, first') headers body filePath := by
  obtain ⟨first', hfirst, hline⟩ := exists_requestLineOf?_joinLines hcontent hlines
  have hsame : requestLine first' 1 = requestLine first 1 := by
    rcases hfirst with rfl | rfl
    · rfl
    · exact requestLine_dropCarriageReturn first 1
  refine ⟨first', headerLines (numberedLines 1 (joinLines (first :: rest))),
    bodyLines (numberedLines 1 (joinLines (first :: rest))), hsame, ?_⟩
  rw [requestOfText, String.toList_ofList, requestOfLines_eq, hline]

/-! ### Requests of a tree -/

/-- A request is read with this line as its request line, and counts its lines from it: the line
decides on method, target and version, and what is wrong with it is what is wrong with the request.
-/
structure RequestNode.ReadsLine (node : RequestNode) (line : List Char) : Prop where
  ne_empty : ∀ n, node.request ≠ .error (.emptyRequest n)
  of_ok : ∀ r, node.request = .ok r → r.lineNumber = 1 ∧ (∃ name, r.id = name ++ "_line_1") ∧
    requestLine line 1 = .ok ⟨r.method, r.url, r.httpVersion⟩
  of_error : ∀ e, requestLine line 1 = .error e → node.request = .error e

theorem exists_requestId_eq (filePath : FilePath) :
    ∃ name, requestId filePath 1 = name ++ "_line_1" := by
  unfold requestId
  exact ⟨_, String.append_assoc ..⟩

theorem readsLine_of_eq_requestOfParts {line line' : List Char} {headers body : List NumberedLine}
    (h : node.request = requestOfParts (1, line') headers body node.origin)
    (hline : requestLine line' 1 = requestLine line 1) : node.ReadsLine line := by
  refine { ne_empty := ?_, of_ok := ?_, of_error := ?_ }
  · intro n
    rw [h]
    apply requestOfParts_ne_emptyRequest
  · intro r hr
    rw [h] at hr
    obtain ⟨parts, fields, hparts, -, rfl⟩ := requestOfParts_eq_ok_iff.mp hr
    exact ⟨rfl, exists_requestId_eq node.origin, hline.symm.trans hparts⟩
  · intro e he
    rw [h]
    exact requestOfParts_eq_error_iff.mpr (.inl (hline.trans he))

/-- A request reads the line of its document at which its block begins. -/
theorem exists_readsLine (h : .request node.block ∈ scan owner.text) : ∃ line,
    (lines owner.text.toList)[node.block.range.start.line]? = some line ∧ node.ReadsLine line := by
  obtain ⟨first, rest, hfirst, hcontent, hmem, htext⟩ := exists_lines_of_mem_scan h
  have hlines : ∀ line ∈ first :: rest, '\n' ∉ line :=
    fun line hline => notMem_of_mem_lines (hmem line hline)
  obtain ⟨first', headers, body, hline, hparts⟩ :=
    requestOfText_joinLines hcontent hlines node.origin
  have hread : node.request = requestOfParts (1, first') headers body node.origin := by
    rw [RequestNode.request, htext, hparts]
  exact ⟨first, hfirst, readsLine_of_eq_requestOfParts hread hline⟩

/-- Every request of an expanded tree stands in one of its documents and reads the line at which its
block begins there. -/
theorem expand_requests_readLine (load : Loader) (maxDepth : Nat) (document : TextDocument)
    (tree : DocumentTree) (h : expand load maxDepth document = .ok tree) :
    (∀ node ∈ tree.nodes.allRequests, ∃ owner, tree.Owns load document owner node) ∧
    ∀ owner node, tree.Owns load document owner node → ∃ line,
      (lines owner.text.toList)[node.block.range.start.line]? = some line ∧
      node.ReadsLine line := by
  obtain ⟨htree, -⟩ := expand_eq_ok_iff.mp h
  constructor
  · intro node hmem
    exact (exists_owns_iff htree).mpr hmem
  · intro owner node howns
    exact exists_readsLine (howns.request_mem_scan htree)

/-- A file whose request line has a carriage return of its own. -/
def returning : MemoryFiles :=
  .ofList [(.ofString "/work/d.http", "###\n# first\nget https://d.example \r\r\nA: 1\n")]

def returningRoot : TextDocument :=
  ⟨workUrl "a.http", "@@include d.http\n\n  GET\n"⟩

def returningNode : RequestNode :=
  ⟨⟨⟨⟨2, 0⟩, ⟨3, 4⟩⟩, "get https://d.example \r\nA: 1", none⟩, .ofString "/work/d.http"⟩

def bareNode : RequestNode :=
  ⟨⟨⟨⟨2, 0⟩, ⟨2, 5⟩⟩, "  GET", none⟩, .ofString "/work/a.http"⟩

def returningTree : DocumentTree :=
  ⟨workUrl "a.http",
    workInclusion 0 "d.http" (.request returningNode .nil) (.request bareNode .nil)⟩

theorem expand_requests_readLine_returning :
    expand returning.load 1 returningRoot = .ok returningTree ∧
    returningTree.nodes.allRequests = [returningNode, bareNode] ∧
    returningNode.ReadsLine "get https://d.example \r".toList ∧
    bareNode.ReadsLine "  GET".toList ∧ bareNode.request = .error (.missingUrl 1) := by
  have hexpand : expand returning.load 1 returningRoot = .ok returningTree := by decide +kernel
  have hload : returning.load (.ofString "/work/d.http") =
      .ok "###\n# first\nget https://d.example \r\r\nA: 1\n" := by decide
  have hreads := (expand_requests_readLine returning.load 1 returningRoot returningTree hexpand).2
  obtain ⟨line, hline, hincluded⟩ :=
    hreads _ returningNode (.included List.mem_cons_self hload List.mem_cons_self)
  obtain ⟨line', hline', hroot⟩ := hreads returningRoot bareNode (.root List.mem_cons_self)
  obtain rfl : line = "get https://d.example \r".toList := by
    apply Option.some.inj
    rw [← hline]
    decide
  obtain rfl : line' = "  GET".toList := by
    apply Option.some.inj
    rw [← hline']
    decide
  exact ⟨hexpand, rfl, hincluded, hroot, hroot.of_error _ (by decide)⟩

end HttpScript.Script
