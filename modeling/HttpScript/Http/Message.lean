/-
Module: HttpScript.Http.Message
Purpose: Requests as a script describes them, and the responses that are kept for reference.
Main exports: Request, Response, headerValue?, Request.header?, Response.header?
-/
import HttpScript.Dict
import HttpScript.FilePath
import HttpScript.Http.Method

namespace HttpScript.Http

/-- Equality of texts up to the case of ASCII letters. -/
def sameIgnoringCase (a b : String) : Bool :=
  a.toList.map Char.toLower == b.toList.map Char.toLower

/-- The value of a header, whatever the case of its name. -/
def headerValue? (headers : Dict String) (name : String) : Option String :=
  (headers.entries.find? (fun e => sameIgnoringCase e.1 name)).map (·.2)

/-- A request, read from one block of a script. -/
structure Request where
  /-- Made from the file's name and the line of the request. -/
  id : String
  method : Method
  /-- The target, with references to variables as they are written. -/
  url : String
  httpVersion : Option String
  headers : Dict String
  body : Option String
  /-- The line of the request within its block, from one. -/
  lineNumber : Nat
  /-- The document the block stands in. -/
  filePath : FilePath
deriving Repr, DecidableEq

namespace Request

/-- A request without headers or body that stands in no document. -/
def new (id : String) (method : Method) (url : String) : Request :=
  ⟨id, method, url, none, {}, none, 0, ⟨[]⟩⟩

def addHeader (r : Request) (name value : String) : Request :=
  { r with headers := r.headers.insert name value }

def setBody (r : Request) (body : String) : Request :=
  { r with body := some body }

def header? (r : Request) (name : String) : Option String :=
  headerValue? r.headers name

def contentType? (r : Request) : Option String :=
  r.header? "content-type"

end Request

/-- What is kept of a response. -/
structure Response where
  statusCode : UInt16
  statusText : String
  headers : Dict String
  /-- Empty when there was none. -/
  body : String
deriving Repr, DecidableEq

namespace Response

/-- A response without headers or body. -/
def new (statusCode : UInt16) (statusText : String) : Response :=
  ⟨statusCode, statusText, {}, ""⟩

def addHeader (r : Response) (name value : String) : Response :=
  { r with headers := r.headers.insert name value }

def setBody (r : Response) (body : String) : Response :=
  { r with body := body }

def header? (r : Response) (name : String) : Option String :=
  headerValue? r.headers name

def contentType? (r : Response) : Option String :=
  r.header? "content-type"

end Response

end HttpScript.Http
