import MessageTunnel.Session.World
/-!
The steps of a session. `step?` lets one task take its next step and is empty if the task has to
wait or is over. A run is any sequence of steps, requests and events on the link, in any order.
-/
set_option autoImplicit false

namespace MessageTunnel.Session

inductive Task where
  | reader
  | acceptor
  | drain (number : Nat)
  | caller (number : Nat)
  deriving DecidableEq, Repr

/-- Takes the next step of a loop's end. The first fault closes the connection, so that the other
loop ends too. -/
def endStep? (s : Session) (loop : Log.InboundLoop) : Ending → Option (Session × Ending)
  | .classify e =>
    let (first, shutdown) := s.shutdown.beginClosing (.ofTransport e)
    let s := { s with shutdown := shutdown }
    match e.disposition, first with
    | .cooperative, true =>
      some ((s.log (.cooperativeClose s.id loop)).log (.loopExited s.id loop), .leave)
    | .cooperative, false => some (s.log (.loopExited s.id loop), .leave)
    | .fault, true => some (s.log (.transportFault s.id loop e), .hangUp)
    | .fault, false => some (s.log (.loopFailedWhileClosing s.id loop e), .leave)
  | .hangUp => some ({ s with link := s.link.close .fault }, .leave)
  | .leave =>
    let (reason, shutdown) := s.shutdown.loopExited
    some ({ s with shutdown := shutdown }, (reason.map Ending.record).getD .ended)
  | .record reason => some (s.trace (.ofNotice reason.notice), .release reason)
  | .release reason =>
    let (notices, registry) := s.registry.release s.id
    let s := { s with registry := registry }
    some (s.emit (notices.map .ofNotice ++ [.released]), .notify reason)
  | .notify reason =>
    some (s.emit [.sessionClosed reason, .logged (.sessionClosed s.id reason)], .publish reason)
  | .publish reason =>
    some ({ s with shutdown := s.shutdown.publish reason }.emit [.published reason], .ended)
  | .ended => none

def readerStep? (s : Session) : Option Session :=
  match s.reader with
  | .reading =>
    match s.link.readDatagram with
    | none => none
    | some (.ok payload, link) =>
      some ({ s with link := link, reader := .record payload }.log
        (.datagramReceived payload.length))
    | some (.error e, link) => some { s with link := link, reader := .ending (.classify e) }
  | .record payload =>
    some { s.trace (.datagramReceived payload.length) with reader := .deliver payload }
  | .deliver payload => some { s.emit [.message payload] with reader := .reading }
  | .ending stage =>
    (s.endStep? .datagrams stage).map fun (s, stage) => { s with reader := .ending stage }

def acceptorStep? (s : Session) : Option Session :=
  match s.acceptor with
  | .accepting =>
    match s.link.acceptStream with
    | none => none
    | some (.ok stream, link) =>
      some { s with link := link, drains := s.drains ++ [.reading stream []] }
    | some (.error e, link) => some { s with link := link, acceptor := .joining e }
  | .joining e =>
    if s.drains.all Drain.isEnded then some { s with acceptor := .ending (.classify e) } else none
  | .ending stage =>
    (s.endStep? .streams stage).map fun (s, stage) => { s with acceptor := .ending stage }

def drainStep? (s : Session) : Drain → Option (Session × Drain)
  | .reading stream message =>
    match s.link.read stream with
    | none => none
    | some (.bytes piece rest) => some (s, .reading rest (message ++ piece))
    | some .ended => some (s.log (.streamReceived message.length), .record (.delivered message))
    | some (.failed e) =>
      some (s.log (.streamDiscarded message.length e), .record (.discarded message.length e))
  | .record (.delivered message) =>
    some (s.trace (.streamReceived message.length), .deliver message)
  | .record (.discarded length e) =>
    some (s.trace (.streamDiscarded length e.message), .ended (.discarded length e))
  | .deliver message => some (s.emit [.message message], .ended (.delivered message))
  | .ended _ => none

/-- What a caller is told of an error: once the session is closing, only that. -/
def settled (s : Session) (e : SessionError) : SessionError :=
  if s.state = .running then e else .closed

def sentEvent (channel : Channel) (length : Nat) : TraceEvent :=
  match channel with
  | .datagram => .datagramSent length
  | .stream => .streamSent length

def sentEntry (channel : Channel) (length : Nat) : Log.Entry :=
  match channel with
  | .datagram => .datagramSent length
  | .stream => .streamSent length

def sendStep? (s : Session) (payload : Payload) (channel : Channel) :
    Stage → Option (Session × Stage)
  | .asked =>
    match s.shutdown.ensureRunning with
    | .error e => some (s, .replied (.failed e))
    | .ok () => some (s, .sending (.first channel))
  | .sending (.ended (.ok channel)) =>
    some (s.trace (sentEvent channel payload.length), .replied (.sent channel))
  | .sending (.ended (.error e)) => some (s, .replied (.failed (s.settled e)))
  | .sending stage =>
    let (next, link) := Dispatch.step payload stage s.link
    let s := { s with link := link }
    match stage, next with
    | .held _, .held _ => none
    | _, .ended (.ok channel) => some (s.log (sentEntry channel payload.length), .sending next)
    | _, _ => some (s, .sending next)
  | _ => none

def stopStep? (s : Session) : Stage → Option (Session × Stage)
  | .asked =>
    let (first, shutdown) := s.shutdown.beginClosing (.cooperative .here)
    if first then
      some ({ s with shutdown := shutdown }.log (.sessionStopping s.id), .hangUp)
    else some (s, .replied (.failed .closed))
  | .hangUp => some ({ s with link := s.link.close .cooperative }, .replied .stopped)
  | _ => none

def awaitStep? (s : Session) : Stage → Option (Session × Stage)
  | .asked => s.shutdown.published.map fun reason => (s, .replied (.closed reason))
  | _ => none

def callerStep? (s : Session) (c : Caller) : Option (Session × Stage) :=
  match c.request with
  | .send payload =>
    s.sendStep? payload (Dispatch.route s.options.datagrams payload.length) c.stage
  | .sendStream payload => s.sendStep? payload .stream c.stage
  | .stop => s.stopStep? c.stage
  | .awaitClosed => s.awaitStep? c.stage

def step? (s : Session) : Task → Option Session
  | .reader => s.readerStep?
  | .acceptor => s.acceptorStep?
  | .drain number => do
    let (s, drain) ← s.drainStep? (← s.drains[number]?)
    return { s with drains := s.drains.set number drain }
  | .caller number => do
    let c ← s.callers[number]?
    let (s, stage) ← s.callerStep? c
    return { s with callers := s.callers.set number { c with stage := stage } }

def ask (s : Session) (r : Request) : Session := { s with callers := s.callers ++ [⟨r, .asked⟩] }

inductive Action where
  | step (t : Task)
  | request (r : Request)
  | event (e : Link.Event)
  | pass (nanoseconds : Nat)

def act (s : Session) : Action → Session
  | .step t => (s.step? t).getD s
  | .request r => s.ask r
  | .event e => { s with link := s.link.apply e }
  | .pass nanoseconds => { s with clock := s.clock + nanoseconds }

def run (s : Session) (actions : List Action) : Session := actions.foldl act s

def canStep (s : Session) (t : Task) : Bool := (s.step? t).isSome

def tasks (s : Session) : List Task :=
  (List.range s.callers.length).map .caller ++ (List.range s.drains.length).map .drain ++
    [.reader, .acceptor]

def isQuiet (s : Session) : Bool := s.tasks.all fun t => !s.canStep t

end MessageTunnel.Session
