/-
Module: HttpScript.Lens
Purpose: The commands an editor shows above the requests of a document.
Main exports: Lens, lenses
-/
import HttpScript.Script.DocumentTree

namespace HttpScript

open Script

/-- A command to send one request of a document. -/
structure Lens where
  range : Range
  title : String
  /-- The document and the line of the request, which are the arguments of the command. -/
  uri : Url
  line : Nat
deriving Repr, DecidableEq

namespace Lens

/-- The command's identifier. -/
def command : String := "rest-client.send"

/-- The lens of a request. -/
def ofRequest (uri : Url) (block : RequestBlock) : Lens where
  range := block.range
  title := match block.name with
    | some name => s!"Send Request: {name}"
    | none => "Send Request"
  uri := uri
  line := block.range.start.line

end Lens

/-- One lens for each request of the document itself. -/
def lenses (t : DocumentTree) : List Lens :=
  t.requests.map (fun n => Lens.ofRequest t.uri n.block)

end HttpScript
