/-
Module: HttpScript.Server.Session
Purpose: What the server does with each event of an editing session.  Its state is a value: the
  open documents, the captured exchanges, the settings in force and the analyzer built from them.
  An event gives the next state and what is told to the editor, in order.
Main exports: Session, Output, Event, Session.handle, Session.lensesOf
-/
import HttpScript.Analyzer
import HttpScript.Lens
import HttpScript.Server.Buffers
import HttpScript.Settings

namespace HttpScript.Server

open Script Variable

/-- How important a line of the log is. -/
inductive LogLevel where
  | warning
  | info
deriving Repr, DecidableEq

/-- Something told to the editor. -/
inductive Output where
  | log (level : LogLevel) (message : String)
  /-- All complaints about a document, in place of the ones before. -/
  | publish (uri : Url) (diagnostics : List Diagnostic)
deriving Repr, DecidableEq

/-- The state of the server. -/
structure Session where
  settings : Settings
  buffers : Buffers
  captures : Captures
  analyzer : Analyzer
deriving Repr

/-- Something that happens in the editor. -/
inductive Event where
  /-- The session begins, with settings if the editor gives any. -/
  | started (processId : Option Nat) (options : Option Json.Value)
  /-- The editor is ready. -/
  | ready
  | opened (uri : Url) (text : String)
  /-- A document has changed; of several whole texts the last one counts. -/
  | changed (uri : Url) (texts : List String)
  | closed (uri : Url)
  | configured (editor : Json.Value)
  /-- A named request has been sent and answered. -/
  | executed (key : CaptureKey) (capture : Capture)
  /-- The session ends. -/
  | stopped
deriving Repr

namespace Session

/-- The analyzer for some settings. -/
def analyzerFor (settings : Settings) : Analyzer :=
  .new settings.maxIncludeDepth settings.environmentVariables

/-- A session in which nothing has happened. -/
def new (settings : Settings) : Session :=
  ⟨settings, {}, {}, analyzerFor settings⟩

/-- Puts settings in force.  The new analyzer has no results yet. -/
def reconfigure (s : Session) (settings : Settings) : Session :=
  { s with settings := settings, analyzer := analyzerFor settings }

/-! ### Checking -/

/-- What a check of a document tells the editor.  A document without a tree keeps the complaints
that were last published. -/
def checkOutput (disk : Disk) (s : Session) (document : TextDocument) : Output :=
  if s.settings.diagnosticsEnabled then
    match s.analyzer.diagnostics (s.buffers.load disk) s.captures resolve document with
    | .ok ds => .publish document.uri ds
    | .error e => .log .warning s!"Could not check {document.uri.text}: {e.message}"
  else .publish document.uri []

/-- The state after a check of a document. -/
def afterCheck (disk : Disk) (s : Session) (document : TextDocument) : Session :=
  if s.settings.diagnosticsEnabled then
    { s with
      analyzer := (s.analyzer.check (s.buffers.load disk) s.captures resolve document).2 }
  else s

/-- Checks some documents one after the other. -/
def checkEach (disk : Disk) : Session → List TextDocument → Session × List Output
  | s, [] => (s, [])
  | s, document :: rest =>
    let output := checkOutput disk s document
    let (s, outputs) := checkEach disk (afterCheck disk s document) rest
    (s, output :: outputs)

/-- Checks every open document. -/
def checkOpen (disk : Disk) (s : Session) : Session × List Output :=
  checkEach disk s s.buffers.all

/-- The other open documents that include a document. -/
def dependents (disk : Disk) (s : Session) (uri : Url) : List TextDocument :=
  s.buffers.all.filter (fun document =>
    document.uri != uri &&
      match s.analyzer.tree (s.buffers.load disk) document with
      | .ok tree => tree.includesDocument uri
      | .error _ => false)

/-! ### Events -/

/-- The session begins. -/
def start (s : Session) (processId : Option Nat) (options : Option Json.Value) :
    Session × List Output :=
  let process := match processId with
    | some n => s!"Some({n})"
    | none => "None"
  let greeting := Output.log .info
    s!"Initializing REST Client Language Server (process ID: {process})"
  match Settings.load (options.map (fun v => .ofMembers [("rest-client", v)])) with
  | .ok settings => (s.reconfigure settings, [greeting])
  | .error e => (s, [greeting, .log .warning s!"{e.loadMessage}. Using defaults."])

/-- A document is opened and checked. -/
def didOpen (disk : Disk) (s : Session) (uri : Url) (text : String) : Session × List Output :=
  checkEach disk { s with buffers := s.buffers.insert uri text } [⟨uri, text⟩]

/-- A document has a new text: it is checked, and then the open documents that include it. -/
def didChange (disk : Disk) (s : Session) (uri : Url) (texts : List String) :
    Session × List Output :=
  match texts.getLast? with
  | none => (s, [.log .warning s!"No content changes received for document: {uri.text}"])
  | some text =>
    let (s, own) := checkEach disk { s with buffers := s.buffers.insert uri text } [⟨uri, text⟩]
    let (s, others) := checkEach disk s (dependents disk s uri)
    (s, own ++ others)

/-- A document is closed, and its complaints with it. -/
def didClose (s : Session) (uri : Url) : Session × List Output :=
  let unknown :=
    if (s.buffers.get? uri).isSome then []
    else [.log .warning s!"Document not found when closing: {uri.text}"]
  ({ s with buffers := s.buffers.erase uri, analyzer := s.analyzer.forget uri },
    unknown ++ [.publish uri []])

/-- The editor's settings have changed: every open document is checked by the new ones. -/
def didConfigure (disk : Disk) (s : Session) (editor : Json.Value) : Session × List Output :=
  match Settings.load (some editor) with
  | .ok settings => checkOpen disk (s.reconfigure settings)
  | .error e => (s, [.log .warning e.loadMessage])

/-- A request has been sent: every open document may refer to it. -/
def didExecute (disk : Disk) (s : Session) (key : CaptureKey) (capture : Capture) :
    Session × List Output :=
  checkOpen disk { s with captures := s.captures.insert key capture }

/-- What an event does. -/
def handle (disk : Disk) (s : Session) : Event → Session × List Output
  | .started processId options => s.start processId options
  | .ready => (s, [.log .info "REST Client Language Server initialized"])
  | .opened uri text => didOpen disk s uri text
  | .changed uri texts => didChange disk s uri texts
  | .closed uri => s.didClose uri
  | .configured editor => didConfigure disk s editor
  | .executed key capture => didExecute disk s key capture
  | .stopped => ({ s with buffers := {} }, [])

/-! ### Questions -/

/-- The lenses of a document, or none when they are turned off.  A document that is not open or has
no tree has no requests. -/
def lensesOf (disk : Disk) (s : Session) (uri : Url) : Option (List Lens) × List Output :=
  if s.settings.codeLensEnabled then
    match s.buffers.get? uri with
    | none => (some [], [.log .warning s!"Document not found for code lens: {uri.text}"])
    | some document =>
      match s.analyzer.tree (s.buffers.load disk) document with
      | .ok tree => (some (lenses tree), [])
      | .error _ => (some [], [])
  else (none, [])

end Session

end HttpScript.Server
