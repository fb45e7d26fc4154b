/-
Module: HttpScript.Server.Incoming
Purpose: Messages from the editor: what each of them asks for, and reading events out of them.
Main exports: Incoming, Incoming.Purpose, Incoming.purpose, Incoming.content, Refusal
-/
import HttpScript.Http.Wire
import HttpScript.Server.Capability
import HttpScript.Server.Session
import HttpScript.Server.Unserved

namespace HttpScript.Server

open Json Variable

/-! ### Contents -/

namespace Read

open Elements

/-- How much of its work the editor asks the server to report. -/
def trace : Value → Except DecodeError Unit :=
  Decode.variant (["off", "messages", "verbose"].map (fun name => (name, ())))

def workspaceFolder : Shape :=
  Shape.record "WorkspaceFolder" [Shape.has "uri" link, Shape.has "name" Shape.text]

def clientInfo : Shape :=
  Shape.record "ClientInfo" [Shape.has "name" Shape.text, Shape.may "version" Shape.text]

def started : Value → Except DecodeError Event :=
  (Record.pure (fun processId _ _ options _ _ _ _ _ => Event.started processId options)
    |>.field (.optional "processId" Decode.nat32)
    |>.field (.optional "rootPath" Decode.text)
    |>.field (.withDefault "rootUri" (Decode.optional uri) none)
    |>.field (.optional "initializationOptions" .ok)
    |>.field (.required "capabilities" Capability.all)
    |>.field (.withDefault "trace" (Decode.optional trace) none)
    |>.field (.optional "workspaceFolders" (Decode.list workspaceFolder))
    |>.field (.optional "clientInfo" clientInfo)
    |>.field (.optional "locale" Decode.text)).decode "InitializeParams"

def ready : Value → Except DecodeError Event :=
  (Record.pure Event.ready).decode "InitializedParams"

def opened : Value → Except DecodeError Event :=
  let item := (Record.pure (fun uri _ _ text => Event.opened uri text)
    |>.field (.required "uri" uri)
    |>.field (.required "languageId" Decode.text)
    |>.field (.required "version" Decode.int32)
    |>.field (.required "text" Decode.text)).decode "TextDocumentItem"
  (Record.pure id |>.field (.required "textDocument" item)).decode "DidOpenTextDocumentParams"

/-- The new text of a change. -/
def change : Value → Except DecodeError String :=
  (Record.pure (fun _ _ text => text)
    |>.field (.optional "range" range)
    |>.field (.optional "rangeLength" Decode.nat32)
    |>.field (.required "text" Decode.text)).decode "TextDocumentContentChangeEvent"

def changed : Value → Except DecodeError Event :=
  let document := (Record.pure (fun uri _ => uri)
    |>.field (.required "uri" uri)
    |>.field (.required "version" Decode.int32)).decode "VersionedTextDocumentIdentifier"
  (Record.pure Event.changed
    |>.field (.required "textDocument" document)
    |>.field (.required "contentChanges" (Decode.list change))).decode "DidChangeTextDocumentParams"

def closed : Value → Except DecodeError Event :=
  (Record.pure Event.closed
    |>.field (.required "textDocument" documentUri)).decode "DidCloseTextDocumentParams"

def configured : Value → Except DecodeError Event :=
  (Record.pure Event.configured
    |>.field (.required "settings" .ok)).decode "DidChangeConfigurationParams"

def executed : Value → Except DecodeError Event :=
  (Record.pure (fun name uri request response =>
      Event.executed ⟨name, uri⟩ ⟨request, response⟩)
    |>.field (.required "name" Decode.text)
    |>.field (.required "uri" uri)
    |>.field (.required "request" Http.Request.ofJson)
    |>.field (.required "response" Http.Response.ofJson)).decode "RequestExecutedParams"

/-- The document whose lenses are asked for. -/
def lensDocument : Value → Except DecodeError Url :=
  (Record.pure id |>.field (.required "textDocument" documentUri)).decodeWith "CodeLensParams"
    ([withProgress, inPieces].map (fun part => (Shape.fields part).ofObject))

end Read

/-! ### Messages -/

/-- Why a request is not served. -/
inductive Refusal where
  | notInitialized
  | invalidRequest
  | methodNotFound
  | invalidParams (reason : String)
deriving Repr, DecidableEq

namespace Refusal

def code : Refusal → Int
  | .notInitialized => -32002
  | .invalidRequest => -32600
  | .methodNotFound => -32601
  | .invalidParams _ => -32602

def message : Refusal → String
  | .notInitialized => "Server not initialized"
  | .invalidRequest => "Invalid request"
  | .methodNotFound => "Method not found"
  | .invalidParams reason => reason

end Refusal

/-- A message from the editor. -/
structure Incoming where
  method : String
  params : Option Value
  /-- Whether an answer is expected. -/
  isRequest : Bool
deriving Repr

namespace Incoming

/-- What a message asks for. -/
inductive Purpose where
  /-- The first message of a connection. -/
  | start
  /-- Notice of an event. -/
  | notice (read : Value → Except DecodeError Event)
  /-- Notice of an event that does not matter here. -/
  | unusedNotice
  /-- Notice that the answer to a request is no longer wanted. -/
  | cancel
  | lenses
  | stop
  /-- The last message of a connection. -/
  | leave
  /-- A request of the protocol that is not served. -/
  | unserved (shape : Shape)
  | unknown

/-- What the messages of each name ask for. -/
def purpose (m : Incoming) : Purpose :=
  match m.method with
  | "initialize" => .start
  | "initialized" => .notice Read.ready
  | "textDocument/didOpen" => .notice Read.opened
  | "textDocument/didChange" => .notice Read.changed
  | "textDocument/didClose" => .notice Read.closed
  | "workspace/didChangeConfiguration" => .notice Read.configured
  | "restClient/requestExecuted" => .notice Read.executed
  | "textDocument/codeLens" => .lenses
  | "shutdown" => .stop
  | "exit" => .leave
  | "$/cancelRequest" => .cancel
  | method => match Unserved.requests.lookup method with
    | some shape => .unserved shape
    | none => if Unserved.notifications.contains method then .unusedNotice else .unknown

/-- The content of a message that has to have some. -/
def content {α : Type} (m : Incoming) (read : Value → Except DecodeError α) : Except Refusal α :=
  match m.params with
  | none => .error (.invalidParams "Missing params field")
  | some v => match read v with
    | .ok a => .ok a
    | .error e => .error (.invalidParams e.message)

end Incoming

end HttpScript.Server
