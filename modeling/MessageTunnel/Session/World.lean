import MessageTunnel.Dispatch
import MessageTunnel.Trace.Registry
/-!
A session with all that runs in it: the loop that reads datagrams, the loop that accepts streams, a
drain for every accepted stream, and the callers that send, stop or wait. Each of these is at some
stage between two steps, and everything that can be seen from outside is kept as a history.
-/
set_option autoImplicit false

namespace MessageTunnel.Session

structure Options where
  datagrams : Bool
  vantage : Vantage
  deriving DecidableEq, Repr

def Options.client : Options := ⟨true, .client⟩

def Options.server : Options := ⟨true, .server⟩

def Options.withDatagrams (o : Options) (enabled : Bool) : Options :=
  { o with datagrams := enabled }

/-- What is left to do for a loop after its last error. Whoever ends the last loop closes the
session: first in the trace, then for the host, and at last for those who wait. -/
inductive Ending where
  | classify (e : TransportError)
  | hangUp
  | leave
  | record (reason : CloseReason)
  | release (reason : CloseReason)
  | notify (reason : CloseReason)
  | publish (reason : CloseReason)
  | ended
  deriving DecidableEq, Repr

inductive Reader where
  | reading
  | record (payload : Payload)
  | deliver (payload : Payload)
  | ending (stage : Ending)
  deriving DecidableEq, Repr

inductive Acceptor where
  | accepting
  | joining (e : TransportError)
  | ending (stage : Ending)
  deriving DecidableEq, Repr

inductive Drained where
  | delivered (message : Payload)
  | discarded (length : Nat) (e : TransportError)
  deriving DecidableEq, Repr

inductive Drain where
  | reading (rest : InboundStream) (message : Payload)
  | record (outcome : Drained)
  | deliver (message : Payload)
  | ended (outcome : Drained)

def Drain.isEnded : Drain → Bool
  | ended _ => true
  | _ => false

inductive Request where
  | send (payload : Payload)
  | sendStream (payload : Payload)
  | stop
  | awaitClosed
  deriving DecidableEq, Repr

inductive Reply where
  | sent (channel : Channel)
  | stopped
  | failed (e : SessionError)
  | closed (reason : CloseReason)
  deriving DecidableEq, Repr

inductive Stage where
  /-- The session has not looked at the request yet. -/
  | asked
  | sending (stage : Dispatch.Stage)
  /-- a stop that was the first, before it closes the connection -/
  | hangUp
  | replied (reply : Reply)

structure Caller where
  request : Request
  stage : Stage

def Caller.reply? (c : Caller) : Option Reply :=
  match c.stage with
  | .replied r => some r
  | _ => none

inductive Effect where
  | message (payload : Payload)
  | announced (fileName : String)
  | sessionClosed (reason : CloseReason)
  | traced (event : TraceEvent)
  | released
  | published (reason : CloseReason)
  | logged (entry : Log.Entry)
  deriving DecidableEq, Repr

end Session

structure Session where
  id : ConnectionId
  options : Session.Options
  shutdown : Shutdown
  link : Link
  registry : Trace.Registry
  writer : Option Nat
  clock : Nat
  reader : Session.Reader
  acceptor : Session.Acceptor
  drains : List Session.Drain
  callers : List Session.Caller
  history : List Session.Effect

namespace Session

def emit (s : Session) (effects : List Effect) : Session :=
  { s with history := s.history ++ effects }

def log (s : Session) (entry : Log.Entry) : Session := s.emit [.logged entry]

def Effect.ofNotice : Trace.Notice → Effect
  | .announced fileName => .announced fileName
  | .logged entry => .logged entry

def trace (s : Session) (event : TraceEvent) : Session :=
  let s := s.emit [.traced event]
  match s.writer with
  | none => s
  | some number =>
    let (notices, registry) := s.registry.record number s.clock event
    { s with registry := registry }.emit (notices.map .ofNotice)

/-- Takes over a connection and starts the two loops. Without a trace the session runs as well. -/
def spawn (id : ConnectionId) (options : Options) (link : Link) (registry : Trace.Registry)
    (clock : Nat) : Session :=
  let (writer, notices, registry) := registry.writerFor id clock
  let s : Session :=
    { id, options, link, registry, clock, shutdown := .start 2, writer := none, reader := .reading,
      acceptor := .accepting, drains := [], callers := [], history := notices.map .ofNotice }
  let s := match writer with
    | .error e => s.log (.traceUnavailable id e.message)
    | .ok writer => { s with writer := writer }
  (s.trace (.connectionStarted options.vantage)).log (.sessionStarted id options.datagrams)

def state (s : Session) : SessionState := s.shutdown.state

def listing (s : Session) : String :=
  let state := match s.state with
    | .running => "Running"
    | .closing => "Closing"
    | .closed => "Closed"
  "TunnelSession \x7b connection_id: " ++ s.id.listing ++ ", state: " ++ state ++ " \x7d"

end Session

end MessageTunnel
