/-
Module: HttpScript.Script.DocumentTree
Purpose: Scripts with everything they include.
Main exports: IncludePath, RequestNode, RequestNode.request, Nodes, DocumentTree,
  DocumentTree.includesDocument, DocumentTree.requests
-/
import HttpScript.Script.Directive
import HttpScript.Script.RequestText
import HttpScript.TextDocument

namespace HttpScript.Script

/-- The path of an include. -/
structure IncludePath where
  /-- Where it stands on the line. -/
  range : Range
  /-- As it is written. -/
  relative : String
  /-- As it is resolved against the including document. -/
  absolute : FilePath
deriving Repr, DecidableEq

/-- A request block in the tree of its document.  Its text is kept as it is; whether it is a
request is a question for those who want to send it. -/
structure RequestNode where
  block : RequestBlock
  /-- The document the block stands in. -/
  origin : FilePath
deriving Repr, DecidableEq

/-- The request that the text of a block describes. -/
def RequestNode.request (n : RequestNode) : Except RequestError Http.Request :=
  requestOfText n.block.text n.origin

/-- The nodes of a document in the order of its text.  A node is followed by the rest of its
document; an include also holds the nodes of the document it includes, so trees of any depth are
one inductive type. -/
inductive Nodes where
  | nil
  | inclusion (range : Range) (path : IncludePath) (uri : Url) (document : Nodes) (rest : Nodes)
  | variable (v : FileVariable) (rest : Nodes)
  | request (node : RequestNode) (rest : Nodes)
deriving Repr, DecidableEq

namespace Nodes

/-- Whether a document is included, directly or by an included document. -/
def includes (uri : Url) : Nodes → Bool
  | .nil => false
  | .inclusion _ _ u document rest => u == uri || document.includes uri || rest.includes uri
  | .variable _ rest => rest.includes uri
  | .request _ rest => rest.includes uri

/-- The requests of the document itself. -/
def requests : Nodes → List RequestNode
  | .nil => []
  | .inclusion _ _ _ _ rest => rest.requests
  | .variable _ rest => rest.requests
  | .request node rest => node :: rest.requests

/-- Every request, those of included documents too. -/
def allRequests : Nodes → List RequestNode
  | .nil => []
  | .inclusion _ _ _ document rest => document.allRequests ++ rest.allRequests
  | .variable _ rest => rest.allRequests
  | .request node rest => node :: rest.allRequests

end Nodes

/-- A document and its nodes. -/
structure DocumentTree where
  uri : Url
  nodes : Nodes
deriving Repr, DecidableEq

namespace DocumentTree

/-- Whether a document is included, directly or by an included document. -/
def includesDocument (t : DocumentTree) (uri : Url) : Bool :=
  t.nodes.includes uri

/-- The requests of the document itself, not those of included documents. -/
def requests (t : DocumentTree) : List RequestNode :=
  t.nodes.requests

end DocumentTree

end HttpScript.Script
