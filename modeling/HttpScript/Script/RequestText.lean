/-
Module: HttpScript.Script.RequestText
Purpose: The text of one request: a request line, headers up to the first blank line, then the body.
  Comment lines are no part of it before the body.
Main exports: RequestError, RequestLine, requestLine, headerFields, bodyText, requestOfLines,
  requestOfText
-/
import HttpScript.Http.Message
import HttpScript.Script.Line
import HttpScript.Text.Lines

namespace HttpScript.Script

open Http

/-- What is wrong with the text of a request.  Lines count from one within that text. -/
inductive RequestError where
  /-- The request line begins with a word that is no method. -/
  | invalidMethod (method : String) (line : Nat)
  /-- The target is neither an address nor a reference to a variable. -/
  | invalidUrl (url : String) (line : Nat)
  /-- A header line has no name before a colon. -/
  | invalidHeader (header : String) (line : Nat)
  /-- The request line has no target. -/
  | missingUrl (line : Nat)
  /-- There is no request line. -/
  | emptyRequest (line : Nat)
deriving Repr, DecidableEq

namespace RequestError

def line : RequestError → Nat
  | .invalidMethod _ n => n
  | .invalidUrl _ n => n
  | .invalidHeader _ n => n
  | .missingUrl n => n
  | .emptyRequest n => n

def message : RequestError → String
  | .invalidMethod method n =>
    s!"Invalid HTTP method '{method}' at line {n}. Expected one of: " ++
      ", ".intercalate (Method.all.map Method.name)
  | .invalidUrl url n =>
    s!"Invalid URL '{url}' at line {n}. URL must start with http://, https:// or a " ++
      "\x7b\x7bvariable\x7d\x7d"
  | .invalidHeader header n =>
    s!"Invalid header format '{header}' at line {n}. Expected format: 'Header-Name: value'"
  | .missingUrl n =>
    s!"Missing URL in request line at line {n}. Expected format: 'METHOD URL [HTTP/VERSION]'"
  | .emptyRequest n => s!"Empty request block at line {n}"

end RequestError

/-! ### The request line -/

/-- Method, target and version of a request. -/
structure RequestLine where
  method : Method
  url : String
  httpVersion : Option String
deriving Repr, DecidableEq

/-- How a target may begin. -/
def targetLeads : List (List Char) :=
  ["http://".toList, "https://".toList, "\x7b\x7b".toList]

/-- An absolute address, or one that begins with a reference to a variable. -/
def isTarget (word : List Char) : Bool :=
  targetLeads.any (·.isPrefixOf word)

/-- One or more digits, and then perhaps a point and one or more digits. -/
def isVersionNumber (s : List Char) : Bool :=
  let whole := s.takeWhile Text.isDigitChar
  match s.dropWhile Text.isDigitChar with
  | [] => !whole.isEmpty
  | point :: part => !whole.isEmpty && point == '.' && !part.isEmpty && part.all Text.isDigitChar

/-- `HTTP/` and a version number. -/
def isVersion (word : List Char) : Bool :=
  match Text.dropLead? "HTTP/".toList word with
  | some number => isVersionNumber number
  | none => false

/-- The words of a line that has the form of a request line: letters, a target and perhaps a
version. Whether the letters are a method and the target is one is a question of its own. -/
def shape? (words : List (List Char)) : Option (List Char × List Char × Option (List Char)) :=
  match words with
  | [method, target] => if method.all Char.isAlpha then some (method, target, none) else none
  | [method, target, version] =>
    if method.all Char.isAlpha && isVersion version then some (method, target, some version)
    else none
  | _ => none

/-- The target, if it is one. -/
def checkTarget (word : List Char) (line : Nat) : Except RequestError String :=
  if isTarget word then .ok (String.ofList word)
  else .error (.invalidUrl (String.ofList word) line)

/-- Reads a request line.  A target alone is fetched with `GET`. -/
def requestLine (text : List Char) (line : Nat) : Except RequestError RequestLine :=
  let words := Text.words text
  match shape? words with
  | some (method, target, version) =>
    match Method.parse? method with
    | none => .error (.invalidMethod (String.ofList method) line)
    | some m => (checkTarget target line).map (⟨m, ·, version.map String.ofList⟩)
  | none =>
    match words with
    | [] => .error (.missingUrl line)
    | [single] =>
      if (Method.parse? single).isSome then .error (.missingUrl line)
      else (checkTarget single line).map (⟨.get, ·, none⟩)
    | method :: target :: _ =>
      if (Method.parse? method).isNone then .error (.invalidMethod (String.ofList method) line)
      else .error (.invalidUrl (String.ofList target) line)

/-! ### Headers and body -/

/-- Name and value around the first colon. -/
def headerField? (line : List Char) : Option (String × String) :=
  match (Text.trim line).span (· ≠ ':') with
  | (name, _ :: value) =>
    let name := Text.trim name
    if name.isEmpty then none
    else some (String.ofList name, String.ofList (Text.trim value))
  | (_, []) => none

/-- The headers of some lines, of which blank ones are skipped; a later header replaces an earlier
one of the same name. -/
def headerFields (lines : List NumberedLine) : Except RequestError (Dict String) :=
  lines.foldlM (fun headers (n, line) =>
    if Text.isBlankLine line then .ok headers
    else match headerField? line with
      | some (name, value) => .ok (headers.insert name value)
      | none => .error (.invalidHeader (String.ofList (Text.trim line)) n)) {}

/-- The lines joined, unless they are all blank. -/
def bodyText (lines : List (List Char)) : Option String :=
  let body := Text.joinLines lines
  if Text.isBlankLine body then none else some (String.ofList body)

/-! ### Whole requests -/

/-- The identifier of the request on a line of a document. -/
def requestId (filePath : FilePath) (line : Nat) : String :=
  let name := ((filePath.fileName?.bind Text.Utf8.decode?).map String.ofList).getD "unknown"
  s!"{name}_line_{line}"

/-- Reads a request from its lines; `start` is the line to blame when there is no request line. -/
def requestOfLines (lines : List NumberedLine) (start : Nat) (filePath : FilePath) :
    Except RequestError Request :=
  match lines.dropWhile (fun l => Text.isBlankLine l.2 || isComment l.2) with
  | [] => .error (.emptyRequest start)
  | (n, first) :: rest => do
    let line ← requestLine first n
    let (head, body) := rest.span (fun l => !Text.isBlankLine l.2)
    let headers ← headerFields (head.filter (fun l => !isComment l.2))
    return {
      id := requestId filePath n
      method := line.method
      url := line.url
      httpVersion := line.httpVersion
      headers := headers
      body := bodyText ((body.drop 1).map (·.2))
      lineNumber := n
      filePath := filePath }

/-- Reads a request from its text, whose lines count from one. -/
def requestOfText (text : String) (filePath : FilePath) : Except RequestError Request :=
  requestOfLines (numberedLines 1 text.toList) 1 filePath

end HttpScript.Script
