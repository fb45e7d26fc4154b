/-
Module: HttpScript.Server.Connection
Purpose: A connection to an editor: which messages it serves in which phase, and how it answers the
  others.  Requests are answered, notifications are not; a notification that cannot be read is
  passed over.
Main exports: Connection, Phase, Answer, Connection.receive
-/
import HttpScript.Server.Incoming
import HttpScript.Server.Outgoing

namespace HttpScript.Server

open Json

/-- The answer to a request. -/
inductive Answer where
  | result (v : Value)
  | refused (r : Refusal)
deriving Repr

/-- How far a connection has come. -/
inductive Phase where
  | waiting
  | running
  | stopped
  /-- The editor has left. -/
  | closed
deriving Repr, DecidableEq

/-- A session and the phase of its connection. -/
structure Connection where
  phase : Phase
  session : Session
deriving Repr

namespace Connection

/-- A connection over which nothing has been sent. -/
def new (settings : Settings) : Connection :=
  ⟨.waiting, .new settings⟩

/-- What a connection gives back: its next state, the answer to a request, and what else is sent
before it. -/
abbrev Response := Connection × Option Answer × List Output

/-- Nothing happens. -/
def ignore (c : Connection) : Response :=
  (c, none, [])

/-- A request is refused. -/
def refuse (c : Connection) (r : Refusal) : Response :=
  (c, some (.refused r), [])

/-- Why a request outside a running session is refused. -/
def refusal : Phase → Refusal
  | .waiting => .notInitialized
  | _ => .invalidRequest

/-- The editor leaves. -/
def leave (c : Connection) : Response :=
  { c with phase := .closed }.ignore

/-- The first message: it may be sent once. -/
def start (c : Connection) (m : Incoming) : Response :=
  match c.phase with
  | .waiting =>
    match m.content Read.started with
    | .error r => c.refuse r
    | .ok event =>
      let (session, outputs) := c.session.handle .empty event
      (⟨.running, session⟩, some (.result greetingJson), outputs)
  | phase => c.refuse (refusal phase)

/-- A request for lenses. -/
def lenses (disk : Script.Disk) (c : Connection) (m : Incoming) : Response :=
  match m.content Read.lensDocument with
  | .error r => c.refuse r
  | .ok uri =>
    let (found, outputs) := c.session.lensesOf disk uri
    let result := match found with
      | none => .null
      | some ls => .array (ls.map lensJson)
    (c, some (.result result), outputs)

/-- The last request. -/
def stop (disk : Script.Disk) (c : Connection) (m : Incoming) : Response :=
  match m.params with
  | none =>
    let (session, outputs) := c.session.handle disk .stopped
    (⟨.stopped, session⟩, some (.result .null), outputs)
  | some v => refuse { c with phase := .stopped } (.invalidParams s!"Unexpected params: {v.text}")

/-- A request of the protocol that is not served; it is told first when its content is wrong. -/
def decline (c : Connection) (m : Incoming) (shape : Shape) : Response :=
  match m.content shape with
  | .error r => c.refuse r
  | .ok _ => c.refuse .methodNotFound

/-- A request during the session, or a refusal outside of it. -/
def whileRunning (c : Connection) (serve : Response) : Response :=
  if c.phase = .running then serve else c.refuse (refusal c.phase)

/-- What the server does with a request.  A notice that is sent as a request changes nothing. -/
def answer (disk : Script.Disk) (c : Connection) (m : Incoming) : Response :=
  match m.purpose with
  | .start => c.start m
  | .lenses => c.whileRunning (c.lenses disk m)
  | .stop => c.whileRunning (c.stop disk m)
  | .unserved shape => c.whileRunning (c.decline m shape)
  | .notice _ | .unusedNotice => c.whileRunning (c.refuse .invalidRequest)
  | .cancel => c.refuse .invalidRequest
  | .leave => c.leave
  | .unknown => if "$/".isPrefixOf m.method then c.ignore else c.refuse .methodNotFound

/-- What the server does with a notification. -/
def observe (disk : Script.Disk) (c : Connection) (m : Incoming) : Response :=
  match c.phase, m.purpose with
  | .running, .notice read =>
    match m.content read with
    | .error _ => c.ignore
    | .ok event =>
      let (session, outputs) := c.session.handle disk event
      (⟨.running, session⟩, none, outputs)
  | .running, .stop => { c with phase := .stopped }.ignore
  | _, .leave => c.leave
  | _, _ => c.ignore

/-- What the server does with a message. -/
def receive (disk : Script.Disk) (c : Connection) (m : Incoming) : Response :=
  if c.phase = .closed then c.ignore
  else if m.isRequest then c.answer disk m
  else c.observe disk m

end Connection

end HttpScript.Server
