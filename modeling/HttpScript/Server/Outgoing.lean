/-
Module: HttpScript.Server.Outgoing
Purpose: What is sent to the editor, as JSON: complaints, lines of the log, lenses and the greeting.
Main exports: Output.toJson, diagnosticJson, lensJson, greetingJson
-/
import HttpScript.Server.Session

namespace HttpScript.Server

open Json

/-- Columns and lines are sent in 32 bits. -/
def positionJson (p : Position) : Value :=
  .ofMembers [
    ("line", .nat (p.line % UInt32.size)),
    ("character", .nat (p.character % UInt32.size))]

def rangeJson (r : Range) : Value :=
  .ofMembers [("start", positionJson r.start), ("end", positionJson r.stop)]

def severityCode : Severity → Nat
  | .error => 1
  | .warning => 2
  | .info => 3

/-- A member that is left out when there is no value. -/
def ifSome (name : String) (v : Option Value) : List (String × Value) :=
  (v.map (fun v => (name, v))).toList

/-- A complaint as the editor shows it; a suggestion is told as related information at its place. -/
def diagnosticJson (uri : Url) (d : Diagnostic) : Value :=
  .ofMembers <| [
    ("range", rangeJson d.range),
    ("severity", .nat (severityCode d.severity)),
    ("source", .string "rest-client"),
    ("message", .string d.message)]
    ++ ifSome "code" (d.code.map .string)
    ++ ifSome "relatedInformation" (d.suggestion.map (fun suggestion =>
      .array [.ofMembers [
        ("location", .ofMembers [("uri", .string uri.text), ("range", rangeJson d.range)]),
        ("message", .string suggestion)]]))

def LogLevel.code : LogLevel → Nat
  | .warning => 2
  | .info => 3

/-- The name of the message that carries an output, and its content. -/
def Output.toJson : Output → Value
  | .log level message => .ofMembers [
      ("method", .string "window/logMessage"),
      ("params", .ofMembers [("type", .nat level.code), ("message", .string message)])]
  | .publish uri diagnostics => .ofMembers [
      ("method", .string "textDocument/publishDiagnostics"),
      ("params", .ofMembers [
        ("uri", .string uri.text),
        ("diagnostics", .array (diagnostics.map (diagnosticJson uri)))])]

def lensJson (l : Lens) : Value :=
  .ofMembers [
    ("range", rangeJson l.range),
    ("command", .ofMembers [
      ("title", .string l.title),
      ("command", .string Lens.command),
      ("arguments", .array [.string l.uri.text, .nat l.line])])]

/-- What the server can do: documents are sent as whole texts, and there are lenses. -/
def greetingJson : Value :=
  .ofMembers [
    ("capabilities", .ofMembers [
      ("textDocumentSync", .nat 1),
      ("codeLensProvider", .ofMembers [("resolveProvider", .bool false)])]),
    ("serverInfo", .ofMembers [
      ("name", .string "rest-client-lsp"),
      ("version", .string "0.2.0")])]

end HttpScript.Server
