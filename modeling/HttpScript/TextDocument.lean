/-
Module: HttpScript.TextDocument
Purpose: A document: its identity and its text.
Main exports: TextDocument, TextDocument.filePath?, TextDocument.ofPath?
-/
import HttpScript.Url.FileUrl

namespace HttpScript

/-- A document under analysis.  Documents that are files are identified by the URL of the file. -/
structure TextDocument where
  uri : Url
  text : String
deriving Repr, DecidableEq

namespace TextDocument

/-- The file the document is, if it is one. -/
def filePath? (d : TextDocument) : Option FilePath :=
  d.uri.toFilePath?

/-- The document of a file named by an absolute path. -/
def ofPath? (path : FilePath) (text : String) : Option TextDocument :=
  (Url.ofFilePath? path).map (⟨·, text⟩)

/-- What the requests of the document name as their origin: the file, or else the path of the URL.
-/
def origin (d : TextDocument) : FilePath :=
  d.filePath?.getD (FilePath.ofString d.uri.path.text)

end TextDocument

end HttpScript
