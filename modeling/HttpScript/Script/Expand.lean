/-
Module: HttpScript.Script.Expand
Purpose: Expanding a document into its tree by loading what it includes, depth first and in the
  order of the text.  An include that leads back to a document still being expanded, nests too
  deeply or cannot be loaded fails the whole expansion; nothing else does.
Main exports: DocumentError, defaultMaxIncludeDepth, expand
-/
import HttpScript.Script.DocumentTree
import HttpScript.Script.Loader

namespace HttpScript.Script

/-- Why a document has no tree. -/
inductive DocumentError where
  | load (path : FilePath) (includedFrom : Url) (cause : LoadError)
  /-- The documents being expanded, outermost first, and the repeated one. -/
  | includeCycle (chain : List FilePath)
  | includeDepthExceeded (path : FilePath) (maxDepth : Nat)
  /-- A document that is no file has no directory to include from. -/
  | notAFile (uri : Url)
deriving Repr, DecidableEq

def DocumentError.message : DocumentError → String
  | .load path includedFrom cause =>
    s!"Cannot include '{path.text}' from {includedFrom.text}: {cause.message}"
  | .includeCycle chain =>
    "Include cycle detected: " ++ " -> ".intercalate (chain.map FilePath.text)
  | .includeDepthExceeded path maxDepth =>
    s!"Include of '{path.text}' exceeds the maximum include depth of {maxDepth}"
  | .notAFile uri => s!"Cannot resolve includes for non-file document {uri.text}"

/-- How deeply includes may nest unless a setting says otherwise. -/
def defaultMaxIncludeDepth : Nat := 32

/-- The nodes of some directives.  What an include stands for is decided by `expandInclude`, from
left to right, and the first failure is the result. -/
def nodesOf (origin : FilePath)
    (expandInclude : IncludeDirective → Except DocumentError (FilePath × DocumentTree)) :
    List Directive → Except DocumentError Nodes
  | [] => .ok .nil
  | .inclusion d :: rest => do
    let (absolute, document) ← expandInclude d
    let rest ← nodesOf origin expandInclude rest
    return .inclusion d.range ⟨d.pathRange, d.path, absolute⟩ document.uri document.nodes rest
  | .variable v :: rest => do
    let rest ← nodesOf origin expandInclude rest
    return .variable v rest
  | .request block :: rest => do
    let rest ← nodesOf origin expandInclude rest
    return .request ⟨block, origin⟩ rest

/-- The tree of a document of which the including documents are `resolving`, outermost first, and
below which includes may nest `remaining` levels deep.  A document that is no file is not among the
documents being expanded, but neither can it include any. -/
def expandWithin (load : Loader) (maxDepth : Nat) (remaining : Nat) (resolving : List FilePath)
    (document : TextDocument) : Except DocumentError DocumentTree := do
  let resolving := resolving ++ document.filePath?.toList
  let expandInclude (d : IncludeDirective) : Except DocumentError (FilePath × DocumentTree) :=
    match document.filePath? with
    | none => .error (.notAFile document.uri)
    | some base =>
      let path := base.resolve d.path
      if resolving.any (·.same path) then .error (.includeCycle (resolving ++ [path]))
      else match remaining with
        | 0 => .error (.includeDepthExceeded path maxDepth)
        | remaining + 1 =>
          match load path with
          | .error cause => .error (.load path document.uri cause)
          | .ok text =>
            match Url.ofFilePath? path with
            | none => .error (.notAFile document.uri)
            | some uri =>
              (expandWithin load maxDepth remaining resolving ⟨uri, text⟩).map (path, ·)
  let nodes ← nodesOf document.origin expandInclude (scan document.text)
  return ⟨document.uri, nodes⟩

/-- The tree of a document. -/
def expand (load : Loader) (maxDepth : Nat) (document : TextDocument) :
    Except DocumentError DocumentTree :=
  expandWithin load maxDepth maxDepth [] document

end HttpScript.Script
