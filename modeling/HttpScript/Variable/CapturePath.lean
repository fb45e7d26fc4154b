/-
Module: HttpScript.Variable.CapturePath
Purpose: Values of an exchange by path: `request` or `response`, then `headers` and a name, or
  `body` and either a star for the whole body or a path into it.  What cannot be resolved is
  explained, with the severity it has for an editor.
Main exports: Resolution, Resolver, PathForm, PathForm.parse?, resolve
-/
import HttpScript.Json.Parser
import HttpScript.Json.Path
import HttpScript.Json.Printer
import HttpScript.Variable.Capture

namespace HttpScript.Variable

open Json

/-- How a resolution ended. -/
inductive ResolveState where
  | success
  | warning
  | error
deriving Repr, DecidableEq

/-- The outcome of a resolution. -/
structure Resolution where
  state : ResolveState
  value : Option String
  /-- What to tell when there is no value. -/
  message : Option String
deriving Repr, DecidableEq

namespace Resolution

def success (value : String) : Resolution :=
  ⟨.success, some value, none⟩

def warning (message : String) : Resolution :=
  ⟨.warning, none, some message⟩

def error (message : String) : Resolution :=
  ⟨.error, none, some message⟩

end Resolution

/-- Resolves the path of a reference against an exchange. -/
abbrev Resolver := Capture → String → Resolution

/-! ### The form of a path -/

/-- One half of an exchange. -/
inductive Side where
  | request
  | response
deriving Repr, DecidableEq

/-- One half of a message. -/
inductive Part where
  | headers
  | body
deriving Repr, DecidableEq

/-- How far a path goes.  A part without a dot after it has the empty selector. -/
inductive PathForm where
  | empty
  | side (side : Side)
  | part (side : Side) (part : Part) (selector : List Char)
deriving Repr, DecidableEq

namespace PathForm

def sideName : Side → List Char
  | .request => "request".toList
  | .response => "response".toList

def partName : Part → List Char
  | .headers => "headers".toList
  | .body => "body".toList

/-- What may follow a side and its dot. -/
def partOf? (side : Side) (s : List Char) (part : Part) : Option PathForm :=
  match Text.dropLead? (partName part) s with
  | some [] => some (.part side part [])
  | some ('.' :: selector) =>
    if selector.contains '\n' then none else some (.part side part selector)
  | _ => none

/-- A path that begins with a given side. -/
def sideOf? (s : List Char) (side : Side) : Option PathForm :=
  match Text.dropLead? (sideName side) s with
  | some [] => some (.side side)
  | some ('.' :: rest) => [Part.body, Part.headers].findSome? (partOf? side rest)
  | _ => none

/-- The form of a path.  A selector has no line feed. -/
def parse? (path : List Char) : Option PathForm :=
  if path.isEmpty then some .empty
  else [Side.request, Side.response].findSome? (sideOf? path)

end PathForm

/-! ### Looking up -/

namespace Capture

def label : Side → String
  | .request => "Request"
  | .response => "Response"

def headers (c : Capture) : Side → Dict String
  | .request => c.request.headers
  | .response => c.response.headers

/-- The body of one side, if it has any characters. -/
def body? (c : Capture) (side : Side) : Option String :=
  let body := match side with
    | .request => c.request.body
    | .response => some c.response.body
  body.filter (fun b => !b.isEmpty)

def contentType? (c : Capture) : Side → Option String
  | .request => c.request.contentType?
  | .response => c.response.contentType?

end Capture

/-- Whether a body of this type is JSON, whatever its parameters. -/
def isJsonType (contentType : String) : Bool :=
  let mediaType := (Text.trim (contentType.toList.takeWhile (· ≠ ';'))).map Char.toLower
  mediaType == "application/json".toList || "+json".toList.isSuffixOf mediaType

/-- The text of a value inside a body: strings stand for themselves. -/
def valueText : Value → String
  | .string s => s
  | v => v.text

def resolveHeader (c : Capture) (side : Side) (name : List Char) : Resolution :=
  if name.isEmpty then .warning "Header name should follow 'headers'"
  else
    let name := String.ofList name
    match Http.headerValue? (c.headers side) name with
    | some value => .success value
    | none => .warning s!"No value is resolved for header '{name}'"

/-- Follows a path into the text of a JSON body. -/
def resolveJson (side : Side) (body : String) (path : List Char) : Resolution :=
  let shown := String.ofList path
  match Json.parse body.toList with
  | .error fault =>
    .warning s!"{Capture.label side} body is not valid JSON: {fault.message body.toList}"
  | .ok json =>
    match Step.ofPath? path with
    | none => .warning s!"Invalid JSONPath query '{shown}'"
    | some steps =>
      match json.follow? steps with
      | some value => .success (valueText value)
      | none => .warning s!"No value is resolved for JSONPath '{shown}'"

def resolveBody (c : Capture) (side : Side) (path : List Char) : Resolution :=
  if path.isEmpty then .warning "Body path should follow 'body'"
  else match c.body? side with
    | none => .warning s!"{Capture.label side} body of the given request doesn't exist"
    | some body =>
      if path = ['*'] then .success body
      else if (c.contentType? side).any isJsonType then resolveJson side body path
      else .warning "Only JSON bodies can be queried"

/-- The value at a path of an exchange. -/
def resolve : Resolver := fun c path =>
  match PathForm.parse? path.toList with
  | none =>
    .error <| s!"Invalid request variable reference '{path}'. Expected 'request' or 'response' " ++
      "followed by 'headers' or 'body'"
  | some .empty => .warning "Http entity name 'request' or 'response' is missing"
  | some (.side _) => .warning "HTTP entity part 'headers' or 'body' should follow the entity name"
  | some (.part side .headers selector) => resolveHeader c side selector
  | some (.part side .body selector) => resolveBody c side selector

end HttpScript.Variable
