/-
Module: HttpScript.Server.Elements
Purpose: What the messages of the protocol are made of: URLs, places in documents, edits,
  commands and diagnostics.
Main exports: Elements.uri, Elements.documentUri, Elements.range, Elements.progressToken
-/
import HttpScript.Json.Shape
import HttpScript.Position
import HttpScript.Url.Parser

namespace HttpScript.Server.Elements

open Json Shape

/-! ### Read for their values -/

/-- An absolute URL. -/
def uri : Value → Except DecodeError Url
  | .string s => match Url.parse s with
    | .ok u => .ok u
    | .error e => .error (.malformed e.message s)
  | v => Decode.wrongType v "a string representing an URL"

def position : Value → Except DecodeError Position :=
  (Record.pure Position.mk
    |>.field (.required "line" Decode.nat32)
    |>.field (.required "character" Decode.nat32)).decode "Position"

def range : Value → Except DecodeError Range :=
  (Record.pure Range.mk
    |>.field (.required "start" position)
    |>.field (.required "end" position)).decode "Range"

/-- The document a message is about. -/
def documentUri : Value → Except DecodeError Url :=
  (Record.pure id |>.field (.required "uri" uri)).decode "TextDocumentIdentifier"

/-! ### Only looked at -/

def link : Shape := readable uri

def place : Shape := readable position

def span : Shape := readable range

def document : Shape := readable documentUri

def location : Shape := record "Location" [has "uri" link, has "range" span]

def numberOrString : Shape := union "NumberOrString" [integer, text]

/-- What the editor calls a report of progress. -/
def progressToken : Shape := numberOrString

/-- A document and a position in it. -/
def atPosition : List (Member) := [has "textDocument" document, has "position" place]

/-- Where to report the progress of the work. -/
def withProgress : List (Member) := [may "workDoneToken" progressToken]

/-- Where to send results that come in pieces. -/
def inPieces : List (Member) := [may "partialResultToken" progressToken]

def command : Shape :=
  record "Command" [has "title" text, has "command" text, may "arguments" (listOf any)]

/-- The formats of explanations. -/
def markupKind : Shape := name ["plaintext", "markdown"]

def markup : Shape := record "MarkupContent" [has "kind" markupKind, has "value" text]

def documentation : Shape := union "Documentation" [text, markup]

def textEdit : Shape := record "TextEdit" [has "range" span, has "newText" text]

def diagnostic : Shape :=
  record "Diagnostic" [
    has "range" span,
    may "severity" integer,
    may "code" numberOrString,
    may "codeDescription" (record "CodeDescription" [has "href" link]),
    may "source" text,
    has "message" text,
    may "relatedInformation" (listOf (record "DiagnosticRelatedInformation"
      [has "location" location, has "message" text])),
    may "tags" (listOf integer),
    may "data" any]

end HttpScript.Server.Elements
