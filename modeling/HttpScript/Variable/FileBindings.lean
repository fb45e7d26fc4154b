/-
Module: HttpScript.Variable.FileBindings
Purpose: The values of file variables in a document and all it includes.  An include counts at the
  place of its directive, the last definition reached wins, and a document included more than once
  counts at the first place only.
Main exports: Collected, Collected.visit, fileBindings
-/
import HttpScript.Dict
import HttpScript.Script.DocumentTree

namespace HttpScript.Variable

open Script

/-- What has been collected, and from which documents. -/
structure Collected where
  visited : List Url
  bindings : Dict String

/-- Walks the nodes of a document, and those of included documents not visited before. -/
def Collected.visit : Nodes → Collected → Collected
  | .nil, c => c
  | .inclusion _ _ uri document rest, c =>
    visit rest (if c.visited.contains uri then c
      else visit document { c with visited := uri :: c.visited })
  | .variable v rest, c => visit rest { c with bindings := c.bindings.insert v.key v.value }
  | .request _ rest, c => visit rest c

/-- The file variables visible in a document. -/
def fileBindings (t : DocumentTree) : Dict String :=
  (Collected.visit t.nodes ⟨[t.uri], {}⟩).bindings

end HttpScript.Variable
